import SoloMining.Yaml.Token

/-! YAML documents as trees of nodes. An alias stands for the node that it names; inside that node
itself it stands for an empty one. -/
namespace SoloMining.Yaml

inductive Node
  | scalar (style : ScalarStyle) (tag : Option String) (text : String)
  | sequence (tag : Option String) (items : List Node)
  | mapping (tag : Option String) (entries : List (Node × Node))

namespace Node

instance : Inhabited Node := ⟨.scalar .plain none ""⟩

def absent : Node := .scalar .plain none ""

end Node

structure Parser where
  tokens : List Token
  anchors : List (String × Node)
  handles : List (String × String)

namespace Parser

structure Properties where
  anchor : Option String
  tag : Option (String × String)

def properties : List Token → Properties × List Token
  | .anchor name :: .tag handle suffix :: rest => (⟨some name, some (handle, suffix)⟩, rest)
  | .tag handle suffix :: .anchor name :: rest => (⟨some name, some (handle, suffix)⟩, rest)
  | .anchor name :: rest => (⟨some name, none⟩, rest)
  | .tag handle suffix :: rest => (⟨none, some (handle, suffix)⟩, rest)
  | tokens => (⟨none, none⟩, tokens)

def resolveTag (p : Parser) : Option (String × String) → Option (Option String)
  | none => some none
  | some (handle, suffix) =>
    if handle.isEmpty then some (some suffix)
    else (p.handles.lookup handle).map fun expansion => some (expansion ++ suffix)

def withTokens (p : Parser) (tokens : List Token) : Parser := { p with tokens }

def bind (p : Parser) (anchor : Option String) (found : Node) : Parser :=
  match anchor with
  | some name => { p with anchors := (name, found) :: p.anchors }
  | none => p

/-- Completes a node that was named before its parts were read. -/
def rebind (p outer : Parser) (anchor : Option String) (found : Node) : Parser :=
  match anchor with
  | some name =>
    { p with anchors := p.anchors.set (p.anchors.length - outer.anchors.length - 1) (name, found) }
  | none => p

def meets (p : Parser) (tokens : List Token) : Bool := p.tokens.head?.any tokens.contains

def afterComma (first : Bool) (p : Parser) : Option Parser :=
  if first then some p
  else
    match p.tokens with
    | .flowEntry :: rest => some (p.withTokens rest)
    | _ => none

mutual

/-- Reads a node. Blocks are read only where they may stand; `indentless` allows a sequence that is
not indented more than the mapping around it. A lone exclamation mark is no tag of a scalar. -/
def node (block indentless : Bool) : (fuel : Nat) → Parser → Option (Node × Parser)
  | 0, _ => none
  | fuel + 1, p =>
    match p.tokens with
    | .alias name :: rest => (p.anchors.lookup name).map fun found => (found, p.withTokens rest)
    | tokens => do
      let (props, rest) := properties tokens
      let tag ← p.resolveTag props.tag
      let inside := p.withTokens (rest.drop 1)
      let sequence := fun (items : Option (List Node × Parser)) =>
        items.map fun (items, next) =>
          (Node.sequence tag items, next.rebind p props.anchor (.sequence tag items))
      let mapping := fun (entries : Option (List (Node × Node) × Parser)) =>
        entries.map fun (entries, next) =>
          (Node.mapping tag entries, next.rebind p props.anchor (.mapping tag entries))
      let openSequence := inside.bind props.anchor (.sequence tag [])
      let openMapping := inside.bind props.anchor (.mapping tag [])
      match rest.head?, block, indentless with
      | some (.scalar style text), _, _ =>
        let found := Node.scalar style (tag.filter (· != "!")) text
        some (found, inside.bind props.anchor found)
      | some .blockEntry, _, true => sequence (looseItems fuel (openSequence.withTokens rest))
      | some .flowSequenceStart, _, _ => sequence (flowItems true fuel openSequence)
      | some .flowMappingStart, _, _ => mapping (flowEntries true fuel openMapping)
      | some .blockSequenceStart, true, _ => sequence (blockItems fuel openSequence)
      | some .blockMappingStart, true, _ => mapping (blockEntries fuel openMapping)
      | _, _, _ =>
        if props.anchor.isSome || tag.isSome then
          let found := Node.scalar .plain tag ""
          some (found, (p.withTokens rest).bind props.anchor found)
        else none

def blockItems : (fuel : Nat) → Parser → Option (List Node × Parser)
  | 0, _ => none
  | fuel + 1, p =>
    match p.tokens with
    | .blockEnd :: rest => some ([], p.withTokens rest)
    | .blockEntry :: rest => do
      let q := p.withTokens rest
      let (item, q) ← if q.meets [.blockEntry, .blockEnd] then some (Node.absent, q)
        else node true false fuel q
      let (items, q) ← blockItems fuel q
      some (item :: items, q)
    | _ => none

def looseItems : (fuel : Nat) → Parser → Option (List Node × Parser)
  | 0, _ => none
  | fuel + 1, p =>
    match p.tokens with
    | .blockEntry :: rest => do
      let q := p.withTokens rest
      let (item, q) ← if q.meets [.blockEntry, .key, .value, .blockEnd] then some (Node.absent, q)
        else node true false fuel q
      let (items, q) ← looseItems fuel q
      some (item :: items, q)
    | _ => some ([], p)

def blockPart : (fuel : Nat) → Parser → Option (Node × Parser)
  | 0, _ => none
  | fuel + 1, p =>
    if p.meets [.key, .value, .blockEnd] then some (.absent, p) else node true true fuel p

def blockEntries : (fuel : Nat) → Parser → Option (List (Node × Node) × Parser)
  | 0, _ => none
  | fuel + 1, p =>
    match p.tokens with
    | .blockEnd :: rest => some ([], p.withTokens rest)
    | .key :: rest => do
      let (key, q) ← blockPart fuel (p.withTokens rest)
      let (value, q) ← match q.tokens with
        | .value :: rest => blockPart fuel (q.withTokens rest)
        | _ => some (.absent, q)
      let (entries, q) ← blockEntries fuel q
      some ((key, value) :: entries, q)
    | _ => none

def flowValue (ending : Token) : (fuel : Nat) → Parser → Option (Node × Parser)
  | 0, _ => none
  | fuel + 1, p =>
    match p.tokens with
    | .value :: rest =>
      let q := p.withTokens rest
      if q.meets [.flowEntry, ending] then some (.absent, q) else node false false fuel q
    | _ => some (.absent, p)

/-- Items up to the closing bracket. A key among them makes a mapping of one entry; where the key
itself is left out, the token in its place is dropped. -/
def flowItems (first : Bool) : (fuel : Nat) → Parser → Option (List Node × Parser)
  | 0, _ => none
  | fuel + 1, p =>
    match p.tokens with
    | .flowSequenceEnd :: rest => some ([], p.withTokens rest)
    | _ => do
      let q ← afterComma first p
      match q.tokens with
      | .flowSequenceEnd :: rest => some ([], q.withTokens rest)
      | .key :: rest => do
        let q := q.withTokens rest
        let (key, q) ← if q.meets [.value, .flowEntry, .flowSequenceEnd] then
            some (.absent, q.withTokens (q.tokens.drop 1))
          else node false false fuel q
        let (value, q) ← flowValue .flowSequenceEnd fuel q
        let (items, q) ← flowItems false fuel q
        some (.mapping none [(key, value)] :: items, q)
      | _ => do
        let (item, q) ← node false false fuel q
        let (items, q) ← flowItems false fuel q
        some (item :: items, q)

def flowEntries (first : Bool) : (fuel : Nat) → Parser → Option (List (Node × Node) × Parser)
  | 0, _ => none
  | fuel + 1, p =>
    match p.tokens with
    | .flowMappingEnd :: rest => some ([], p.withTokens rest)
    | _ => do
      let q ← afterComma first p
      match q.tokens with
      | .flowMappingEnd :: rest => some ([], q.withTokens rest)
      | .key :: rest => do
        let q := q.withTokens rest
        let (key, q) ← if q.meets [.value, .flowEntry, .flowMappingEnd] then some (.absent, q)
          else node false false fuel q
        let (value, q) ← flowValue .flowMappingEnd fuel q
        let (entries, q) ← flowEntries false fuel q
        some ((key, value) :: entries, q)
      | _ => do
        let (key, q) ← node false false fuel q
        let (entries, q) ← flowEntries false fuel q
        some ((key, .absent) :: entries, q)

end

/-- The directives in front of a document. At most one states a version, which has to be 1.1 or 1.2,
and no handle is declared twice. -/
def directives (versioned : Bool) (handles : List (String × String)) :
    List Token → Option (List (String × String) × List Token)
  | .versionDirective major minor :: rest =>
    if !versioned && major == 1 && (minor == 1 || minor == 2) then directives true handles rest
    else none
  | .tagDirective handle expansion :: rest =>
    if (handles.lookup handle).isSome then none
    else directives versioned ((handle, expansion) :: handles) rest
  | tokens => some (handles, tokens)

def standardHandles : List (String × String) := [("!", "!"), ("!!", "tag:yaml.org,2002:")]

def content (p : Parser) : Option (Node × Parser) :=
  match p.tokens with
  | [] => some (.absent, p)
  | .versionDirective _ _ :: _ => some (.absent, p)
  | .tagDirective _ _ :: _ => some (.absent, p)
  | .documentStart :: _ => some (.absent, p)
  | .documentEnd :: _ => some (.absent, p)
  | tokens => node true false (4 * tokens.length + 4) p

def document (tokens : List Token) : Option (Option Node) := do
  let (declared, rest) ← directives false [] tokens
  let p : Parser := ⟨rest, [], declared ++ standardHandles⟩
  let explicit := rest.length < tokens.length
  let (root, q) ← match rest with
    | [] => if explicit then none else some (none, p)
    | .documentStart :: rest => (content (p.withTokens rest)).map fun (n, q) => (some n, q)
    | _ =>
      if explicit then none
      else (node true false (4 * rest.length + 4) p).map fun (n, q) => (some n, q)
  if q.tokens.all (· == .documentEnd) then some root else none

end Parser

def parse? (text : String) : Option (Option Node) := (tokens? text).bind Parser.document

end SoloMining.Yaml
