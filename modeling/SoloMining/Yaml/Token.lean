import SoloMining.Yaml.Scalar

/-! The tokens of YAML text. Indentation is made explicit: blocks have starts and ends. A key is
recognised late, by the colon behind it, so its token is put in front of what has been read. -/
namespace SoloMining.Yaml

inductive ScalarStyle
  | plain
  | literal
  | other
deriving DecidableEq

inductive Token
  | versionDirective (major minor : Nat)
  | tagDirective (handle expansion : String)
  | documentStart
  | documentEnd
  | blockSequenceStart
  | blockMappingStart
  | blockEnd
  | flowSequenceStart
  | flowSequenceEnd
  | flowMappingStart
  | flowMappingEnd
  | blockEntry
  | flowEntry
  | key
  | value
  | alias (name : String)
  | anchor (name : String)
  | tag (handle suffix : String)
  | scalar (style : ScalarStyle) (text : String)
deriving DecidableEq

structure KeyCandidate where
  place : Nat
  required : Bool
  start : Cursor

structure Scanner where
  cursor : Cursor
  tokens : List Token
  indent : Int
  outerIndents : List Int
  /-- One candidate for every open bracket, innermost first, and one for the blocks. -/
  candidates : List (Option KeyCandidate)
  keyAllowed : Bool

namespace Scanner

def start (cs : List Char) : Scanner := ⟨.start cs, [], -1, [], [none], true⟩

def inFlow (s : Scanner) : Bool := 1 < s.candidates.length

def column (s : Scanner) : Int := s.cursor.column

def emit (s : Scanner) (t : Token) : Scanner := { s with tokens := t :: s.tokens }

def insert (s : Scanner) (place : Nat) (t : Token) : Scanner :=
  { s with tokens := s.tokens.insertIdx (s.tokens.length - place) t }

def skip (s : Scanner) (n : Nat) : Scanner := { s with cursor := s.cursor.advance n }

def moveTo (s : Scanner) (rest : List Char) : Scanner := { s with cursor := s.cursor.moveTo rest }

/-- Behind the blanks. Where a key may begin, tabs do not count as blanks. -/
def unblanked (s : Scanner) : Cursor :=
  s.cursor.skipWhile fun c => c == ' ' || ((s.inFlow || !s.keyAllowed) && c == '\t')

def skipToToken : (fuel : Nat) → Scanner → Scanner
  | 0, s => s
  | fuel + 1, s =>
    let ending := s.unblanked.skipComment
    match ending.rest with
    | c :: _ =>
      if isBreak c then
        skipToToken fuel
          { s with cursor := ending.advance 1, keyAllowed := s.keyAllowed || !s.inFlow }
      else { s with cursor := ending }
    | [] => { s with cursor := ending }

def isStale (s : Scanner) (k : KeyCandidate) : Bool :=
  k.start.line < s.cursor.line || k.start.index + 1024 < s.cursor.index

/-- Gives up the candidates that are out of reach, unless one of them had to be a key. -/
def dropStale (s : Scanner) : Option Scanner := do
  let candidates ← s.candidates.mapM fun candidate =>
    match candidate with
    | some k => if s.isStale k then (if k.required then none else some none) else some (some k)
    | none => some none
  some { s with candidates }

def dropCandidate (s : Scanner) : Option Scanner :=
  match s.candidates with
  | some k :: rest => if k.required then none else some { s with candidates := none :: rest }
  | _ => some s

def saveCandidate (s : Scanner) : Option Scanner :=
  if s.keyAllowed then do
    let cleared ← s.dropCandidate
    let required := !s.inFlow && s.indent == s.column
    some { cleared with
      candidates := some ⟨s.tokens.length, required, s.cursor⟩ :: cleared.candidates.drop 1 }
  else some s

def openBlock (s : Scanner) (column : Int) (place : Nat) (t : Token) : Scanner :=
  if !s.inFlow && s.indent < column then
    { s.insert place t with indent := column, outerIndents := s.indent :: s.outerIndents }
  else s

def endBlocks (column : Int) : Int → List Int → List Token → Int × List Int × List Token
  | indent, [], tokens => (indent, [], tokens)
  | indent, outer :: rest, tokens =>
    if column < indent then endBlocks column outer rest (.blockEnd :: tokens)
    else (indent, outer :: rest, tokens)

def closeBlocks (s : Scanner) (column : Int) : Scanner :=
  if s.inFlow then s
  else
    let (indent, outerIndents, tokens) := endBlocks column s.indent s.outerIndents s.tokens
    { s with indent, outerIndents, tokens }

def endContent (s : Scanner) : Option Scanner := do
  let cleared ← (s.closeBlocks (-1)).dropCandidate
  some { cleared with keyAllowed := false }

/-! Directives and properties of nodes. -/

def digits? (cs : List Char) : Option (Nat × List Char) :=
  let ds := cs.takeWhile Char.isDigit
  if ds.isEmpty || 9 < ds.length then none
  else some (ds.foldl (fun n d => 10 * n + (d.toNat - 48)) 0, cs.dropWhile Char.isDigit)

def version? (cs : List Char) : Option (Token × List Char) := do
  let (major, rest) ← digits? (cs.dropWhile isBlank)
  match rest with
  | '.' :: rest => do
    let (minor, rest) ← digits? rest
    some (.versionDirective major minor, rest)
  | _ => none

def tagHandle? : List Char → Option (List Char × List Char)
  | '!' :: rest =>
    let name := rest.takeWhile isNameChar
    match rest.dropWhile isNameChar with
    | '!' :: after => some ('!' :: name ++ ['!'], after)
    | after => some ('!' :: name, after)
  | _ => none

def percentOctet? : List Char → Option (Nat × List Char)
  | '%' :: a :: b :: rest =>
    match Text.readDigits 16 256 0 [a, b] with
    | .ok n => some (n, rest)
    | .error _ => none
  | _ => none

def moreOctets : (n value : Nat) → List Char → Option (Nat × List Char)
  | 0, value, cs => some (value, cs)
  | n + 1, value, cs => do
    let (octet, rest) ← percentOctet? cs
    if octet / 64 = 2 then moreOctets n (value * 64 + octet % 64) rest else none

def percentChar? (cs : List Char) : Option (Char × List Char) := do
  let (octet, rest) ← percentOctet? cs
  let (size, value) ←
    if octet < 0x80 then some (0, octet)
    else if octet / 32 = 6 then some (1, octet % 32)
    else if octet / 16 = 14 then some (2, octet % 16)
    else if octet / 8 = 30 then some (3, octet % 8)
    else none
  let (code, rest) ← moreOctets size value rest
  some (Char.ofNat code, rest)

def isTagChar (inDirective : Bool) (c : Char) : Bool :=
  isNameChar c || ";/?:@&=+$.!~*'()".contains c || (inDirective && ",[]".contains c)

def tagText (inDirective : Bool) : (fuel : Nat) → List Char → Option (List Char × List Char)
  | 0, cs => some ([], cs)
  | fuel + 1, cs =>
    match cs with
    | [] => some ([], [])
    | '%' :: _ => do
      let (c, rest) ← percentChar? cs
      let (text, rest) ← tagText inDirective fuel rest
      some (c :: text, rest)
    | c :: rest =>
      if isTagChar inDirective c then do
        let (text, rest) ← tagText inDirective fuel rest
        some (c :: text, rest)
      else some ([], c :: rest)

def tagDirective? (cs : List Char) : Option (Token × List Char) := do
  let (handle, rest) ← tagHandle? (cs.dropWhile isBlank)
  if handle.getLast? != some '!' then none
  else if !(rest.head?.any isBlank) then none
  else do
    let (expansion, rest) ← tagText true (rest.length + 1) (rest.dropWhile isBlank)
    if expansion.isEmpty || !endsWord rest then none
    else some (.tagDirective (String.ofList handle) (String.ofList expansion), rest)

def directive? (cs : List Char) : Option (Token × List Char) := do
  let name := cs.takeWhile isNameChar
  let behind := cs.dropWhile isNameChar
  if name.isEmpty || !endsWord behind then none
  else do
    let (t, rest) ←
      if name == "YAML".toList then version? behind
      else if name == "TAG".toList then tagDirective? behind
      else none
    let comment := rest.dropWhile isBlank
    let ending := match comment with
      | '#' :: _ => comment.dropWhile (!isBreak ·)
      | _ => comment
    if endsLine ending then some (t, ending.drop 1) else none

def anchorName? (cs : List Char) : Option (String × List Char) :=
  let name := cs.takeWhile isNameChar
  let rest := cs.dropWhile isNameChar
  if name.isEmpty then none
  else if endsWord rest || (rest.head?.any fun c => "?:,]\x7d%@\x60".contains c) then
    some (String.ofList name, rest)
  else none

def tagBody? (cs : List Char) : Option (Token × List Char) :=
  match cs with
  | '!' :: '<' :: rest => do
    let (text, rest) ← tagText true (rest.length + 1) rest
    match rest with
    | '>' :: rest => if text.isEmpty then none else some (.tag "" (String.ofList text), rest)
    | _ => none
  | _ => do
    let (handle, rest) ← tagHandle? cs
    if 1 < handle.length && handle.getLast? == some '!' then do
      let (suffix, rest) ← tagText false (rest.length + 1) rest
      if suffix.isEmpty then none
      else some (.tag (String.ofList handle) (String.ofList suffix), rest)
    else do
      let (more, rest) ← tagText false (rest.length + 1) rest
      let suffix := handle.drop 1 ++ more
      if suffix.isEmpty then some (.tag "" "!", rest)
      else some (.tag "!" (String.ofList suffix), rest)

def tag? (inFlow : Bool) (cs : List Char) : Option (Token × List Char) := do
  let (t, rest) ← tagBody? cs
  if endsWord rest || (inFlow && rest.head? == some ',') then some (t, rest) else none

/-! One token. -/

def takeDirective (s : Scanner) : Option Scanner := do
  let ended ← s.endContent
  let (t, rest) ← directive? (s.cursor.rest.drop 1)
  some ((ended.emit t).moveTo rest)

def takeDocumentMark (s : Scanner) (t : Token) : Option Scanner := do
  let ended ← s.endContent
  some ((ended.emit t).skip 3)

def takeFlowStart (s : Scanner) (t : Token) : Option Scanner := do
  let saved ← s.saveCandidate
  some ({ saved with candidates := none :: saved.candidates, keyAllowed := true }.emit t |>.skip 1)

def takeFlowEnd (s : Scanner) (t : Token) : Option Scanner := do
  let cleared ← s.dropCandidate
  let candidates := if s.inFlow then cleared.candidates.drop 1 else cleared.candidates
  some ({ cleared with candidates, keyAllowed := false }.emit t |>.skip 1)

def takeFlowEntry (s : Scanner) : Option Scanner := do
  let cleared ← s.dropCandidate
  some ({ cleared with keyAllowed := true }.emit .flowEntry |>.skip 1)

def takeBlockEntry (s : Scanner) : Option Scanner :=
  if !s.inFlow && !s.keyAllowed then none
  else do
    let cleared ← (s.openBlock s.column s.tokens.length .blockSequenceStart).dropCandidate
    some ({ cleared with keyAllowed := true }.emit .blockEntry |>.skip 1)

def takeKey (s : Scanner) : Option Scanner :=
  if !s.inFlow && !s.keyAllowed then none
  else do
    let cleared ← (s.openBlock s.column s.tokens.length .blockMappingStart).dropCandidate
    some ({ cleared with keyAllowed := !s.inFlow }.emit .key |>.skip 1)

def takeValue (s : Scanner) : Option Scanner :=
  match s.candidates with
  | some k :: rest =>
    let keyed := (s.insert k.place .key).openBlock k.start.column k.place .blockMappingStart
    some ({ keyed with candidates := none :: rest, keyAllowed := false }.emit .value |>.skip 1)
  | _ =>
    if !s.inFlow && !s.keyAllowed then none
    else
      let opened := s.openBlock s.column s.tokens.length .blockMappingStart
      some ({ opened with keyAllowed := !s.inFlow }.emit .value |>.skip 1)

def takeProperty (s : Scanner) (read : Option (Token × List Char)) : Option Scanner := do
  let saved ← s.saveCandidate
  let (t, rest) ← read
  some ({ saved with keyAllowed := false }.emit t |>.moveTo rest)

def takeScalar (s : Scanner) (style : ScalarStyle) (read : Option ScalarText) : Option Scanner := do
  let saved ← s.saveCandidate
  let scalar ← read
  some ({ saved with keyAllowed := scalar.endedLine }.emit (.scalar style (String.ofList scalar.text))
    |>.moveTo scalar.rest)

def takeBlock (s : Scanner) (literal : Bool) : Option Scanner := do
  let cleared ← s.dropCandidate
  let scalar ← readBlock literal s.indent (s.cursor.rest.drop 1)
  let style := if literal then .literal else .other
  some ({ cleared with keyAllowed := true }.emit (.scalar style (String.ofList scalar.text))
    |>.moveTo scalar.rest)

def startsPlain (inFlow : Bool) (c : Char) (rest : List Char) : Bool :=
  if c == '-' then !(rest.head?.any isBlank)
  else if c == '?' || c == ':' then !inFlow && !endsWord rest
  else !isBlank c && !isBreak c && !",[]\x7b\x7d#&*!|>'\"%@\x60".contains c

def takeToken (s : Scanner) (c : Char) (rest : List Char) : Option Scanner :=
  let atStart := s.cursor.column == 0
  if atStart && c == '%' then s.takeDirective
  else if atStart && startsDocumentMark (c :: rest) then
    s.takeDocumentMark (if c == '-' then .documentStart else .documentEnd)
  else if c == '[' then s.takeFlowStart .flowSequenceStart
  else if c == '\x7b' then s.takeFlowStart .flowMappingStart
  else if c == ']' then s.takeFlowEnd .flowSequenceEnd
  else if c == '\x7d' then s.takeFlowEnd .flowMappingEnd
  else if c == ',' then s.takeFlowEntry
  else if c == '-' && endsWord rest then s.takeBlockEntry
  else if c == '?' && (s.inFlow || endsWord rest) then s.takeKey
  else if c == ':' && (s.inFlow || endsWord rest) then s.takeValue
  else if c == '*' then
    s.takeProperty ((anchorName? rest).map fun (name, after) => (.alias name, after))
  else if c == '&' then
    s.takeProperty ((anchorName? rest).map fun (name, after) => (.anchor name, after))
  else if c == '!' then s.takeProperty (tag? s.inFlow (c :: rest))
  else if c == '|' && !s.inFlow then s.takeBlock true
  else if c == '>' && !s.inFlow then s.takeBlock false
  else if c == '\'' then s.takeScalar .other (readSingleQuoted false .none [] rest)
  else if c == '"' then s.takeScalar .other (readDoubleQuoted false .none [] rest)
  else if startsPlain s.inFlow c rest then
    s.takeScalar .plain
      (readPlain s.inFlow (s.indent + 1) s.cursor.column .none [] (c :: rest))
  else none

def run : (fuel : Nat) → Scanner → Option Scanner
  | 0, _ => none
  | fuel + 1, s => do
    let there ← (s.skipToToken (s.cursor.rest.length + 1)).dropStale
    let closed := there.closeBlocks there.column
    match closed.cursor.rest with
    | [] => (closed.closeBlocks (-1)).dropCandidate
    | c :: rest => do
      let next ← closed.takeToken c rest
      run fuel next

end Scanner

def tokens? (text : String) : Option (List Token) :=
  let cs := match text.toList with
    | '\uFEFF' :: rest => rest
    | cs => cs
  if cs.all isAllowed then
    let start := Scanner.start (unifyBreaks cs)
    (Scanner.run (cs.length + 1) start).map fun s => s.tokens.reverse
  else none

end SoloMining.Yaml
