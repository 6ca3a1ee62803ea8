import SoloMining.Text.Radix
import SoloMining.Yaml.Cursor

/-! The scalars of YAML text. Line breaks inside plain and quoted scalars are folded: a single one
becomes a space, and of several the first is dropped. -/
namespace SoloMining.Yaml

/-- What stands between two words of a scalar. Text is kept in reverse. -/
inductive Gap
  | blanks (cs : List Char)
  | breaks (first : Option Char) (more : List Char)

namespace Gap

def none : Gap := .blanks []

def isNone : Gap → Bool
  | .blanks [] => true
  | _ => false

def hasBreak : Gap → Bool
  | .blanks _ => false
  | .breaks _ _ => true

def addBlank (c : Char) : Gap → Gap
  | .blanks cs => .blanks (c :: cs)
  | gap => gap

def addBreak (c : Char) : Gap → Gap
  | .blanks _ => .breaks (some c) []
  | .breaks first more => .breaks first (c :: more)

def fold : Gap → List Char
  | .blanks cs => cs
  | .breaks (some '\n') [] => [' ']
  | .breaks (some '\n') more => more
  | .breaks first more => more ++ first.toList

end Gap

structure ScalarText where
  text : List Char
  rest : List Char
  endedLine : Bool

/-- A plain scalar: it ends before a comment, a colon that ends a word, a line that is indented less
than `indent`, a document mark and, inside brackets, before their punctuation. -/
def readPlain (flow : Bool) (indent : Int) :
    (column : Nat) → Gap → (text : List Char) → List Char → Option ScalarText
  | _, gap, text, [] => some ⟨text.reverse, [], gap.hasBreak⟩
  | column, gap, text, c :: rest =>
    let stopped : ScalarText := ⟨text.reverse, c :: rest, gap.hasBreak⟩
    if isBreak c then readPlain flow indent 0 (gap.addBreak c) text rest
    else if isBlank c then
      if c == '\t' && gap.hasBreak && column < indent then none
      else readPlain flow indent (column + 1) (gap.addBlank c) text rest
    else if !gap.isNone && ((!flow && column < indent) || c == '#'
        || (column == 0 && startsDocumentMark (c :: rest))) then some stopped
    else if flow && c == ':' && (rest.head?.any fun d => ",?[]\x7b\x7d".contains d) then none
    else if (c == ':' && endsWord rest) || (flow && ",[]\x7b\x7d".contains c) then some stopped
    else readPlain flow indent (column + 1) .none (c :: (gap.fold ++ text)) rest

def readSingleQuoted :
    (lineStart : Bool) → Gap → (text : List Char) → List Char → Option ScalarText
  | _, _, _, [] => none
  | lineStart, gap, text, c :: rest =>
    if lineStart && startsDocumentMark (c :: rest) then none
    else if isBreak c then readSingleQuoted true (gap.addBreak c) text rest
    else if isBlank c then readSingleQuoted false (gap.addBlank c) text rest
    else if c == '\'' then
      match rest with
      | '\'' :: after => readSingleQuoted false .none ('\'' :: (gap.fold ++ text)) after
      | _ => some ⟨(gap.fold ++ text).reverse, rest, false⟩
    else readSingleQuoted false .none (c :: (gap.fold ++ text)) rest

def escaped? (c : Char) : Option Char :=
  if c == '0' then some (Char.ofNat 0)
  else if c == 'a' then some (Char.ofNat 7)
  else if c == 'b' then some (Char.ofNat 8)
  else if c == 't' || c == '\t' then some '\t'
  else if c == 'n' then some '\n'
  else if c == 'v' then some (Char.ofNat 11)
  else if c == 'f' then some (Char.ofNat 12)
  else if c == 'r' then some '\r'
  else if c == 'e' then some (Char.ofNat 27)
  else if c == ' ' || c == '"' || c == '/' || c == '\\' then some c
  else if c == 'N' then some (Char.ofNat 0x85)
  else if c == '_' then some (Char.ofNat 0xA0)
  else if c == 'L' then some (Char.ofNat 0x2028)
  else if c == 'P' then some (Char.ofNat 0x2029)
  else none

def hexChar? (digits : List Char) : Option Char :=
  match Text.readDigits 16 0x110000 0 digits with
  | .ok n => if h : n.isValidChar then some (Char.ofNatAux n h) else none
  | .error _ => none

def readDoubleQuoted :
    (lineStart : Bool) → Gap → (text : List Char) → List Char → Option ScalarText
  | _, _, _, [] => none
  | lineStart, gap, text, '\\' :: rest =>
    if lineStart && startsDocumentMark ('\\' :: rest) then none
    else
      match rest with
      | [] => none
      | 'x' :: a :: b :: after => do
        let c ← hexChar? [a, b]
        readDoubleQuoted false .none (c :: (gap.fold ++ text)) after
      | 'u' :: a :: b :: c :: d :: after => do
        let c ← hexChar? [a, b, c, d]
        readDoubleQuoted false .none (c :: (gap.fold ++ text)) after
      | 'U' :: a :: b :: c :: d :: e :: f :: g :: h :: after => do
        let c ← hexChar? [a, b, c, d, e, f, g, h]
        readDoubleQuoted false .none (c :: (gap.fold ++ text)) after
      | e :: after =>
        if isBreak e then
          readDoubleQuoted true (.breaks Option.none []) (gap.fold ++ text) after
        else
          match escaped? e with
          | some c => readDoubleQuoted false .none (c :: (gap.fold ++ text)) after
          | none => none
  | lineStart, gap, text, c :: rest =>
    if lineStart && startsDocumentMark (c :: rest) then none
    else if isBreak c then readDoubleQuoted true (gap.addBreak c) text rest
    else if isBlank c then readDoubleQuoted false (gap.addBlank c) text rest
    else if c == '"' then some ⟨(gap.fold ++ text).reverse, rest, false⟩
    else readDoubleQuoted false .none (c :: (gap.fold ++ text)) rest

inductive Chomping
  | strip
  | clip
  | keep

/-- The signs behind the indicator of a block, in either order: how to chomp, and by how much the
block is indented. -/
def readBlockHeader (cs : List Char) : Option (Chomping × Option Nat × List Char) :=
  let chomping? : Char → Option Chomping := fun c =>
    if c == '+' then some .keep else if c == '-' then some .strip else none
  let indent? : Char → Option Nat := fun c => if c.isDigit then some (c.toNat - 48) else none
  let checked : Chomping → Option Nat → List Char → Option (Chomping × Option Nat × List Char) :=
    fun chomping indent rest => if indent == some 0 then none else some (chomping, indent, rest)
  match cs with
  | [] => some (.clip, none, [])
  | c :: rest =>
    match chomping? c, indent? c with
    | some chomping, _ =>
      match rest.head?.bind indent? with
      | some n => checked chomping (some n) (rest.drop 1)
      | none => some (chomping, none, rest)
    | none, some n =>
      match rest.head?.bind chomping? with
      | some chomping => checked chomping (some n) (rest.drop 1)
      | none => checked .clip (some n) rest
    | none, none => some (.clip, none, c :: rest)

structure BlockGap where
  widest : Nat
  breaks : List Char
  column : Nat
  rest : List Char

def readBlockGap (known : Option Nat) :
    (column widest : Nat) → (breaks : List Char) → List Char → Option BlockGap
  | column, widest, breaks, [] => some ⟨max widest column, breaks, column, []⟩
  | column, widest, breaks, c :: rest =>
    let inside := known.all (column < ·)
    if c == ' ' && inside then readBlockGap known (column + 1) widest breaks rest
    else if c == '\t' && inside then none
    else if isBreak c then readBlockGap known 0 (max widest column) (c :: breaks) rest
    else some ⟨max widest column, breaks, column, c :: rest⟩

structure BlockText where
  text : List Char
  lastBreak : Option Char
  startsBlank : Bool
  gap : BlockGap

/-- What joins the next line to the lines so far. In a folded block a single line feed between two
lines that start with no blank becomes a space. -/
def BlockText.joint (block : BlockText) (literal nextBlank : Bool) : List Char :=
  if !literal && block.lastBreak == some '\n' && !block.startsBlank && !nextBlank then
    if block.gap.breaks.isEmpty then [' '] else block.gap.breaks
  else block.gap.breaks ++ block.lastBreak.toList

def readBlockLines (literal : Bool) (indent : Nat) : (fuel : Nat) → BlockText → Option BlockText
  | 0, block => some block
  | fuel + 1, block =>
    match block.gap.rest with
    | [] => some block
    | c :: rest =>
      if block.gap.column != indent then some block
      else
        let blank := isBlank c
        let line := (c :: rest).takeWhile (!isBreak ·)
        let after := (c :: rest).dropWhile (!isBreak ·)
        match readBlockGap (some indent) 0 0 [] (after.drop 1) with
        | some gap =>
          readBlockLines literal indent fuel
            ⟨line.reverse ++ block.joint literal blank ++ block.text, after.head?, blank, gap⟩
        | none => none

def readBlock (literal : Bool) (parent : Int) (cs : List Char) : Option ScalarText := do
  let (chomping, increment, header) ← readBlockHeader cs
  let comment := header.dropWhile isBlank
  let ending := match comment with
    | '#' :: _ => comment.dropWhile (!isBreak ·)
    | _ => comment
  if !endsLine ending then none
  else do
    let known := increment.map fun n => if 0 ≤ parent then parent.toNat + n else n
    let gap ← readBlockGap known 0 0 [] (ending.drop 1)
    let indent := known.getD (max gap.widest (max (parent + 1).toNat 1))
    let block ← readBlockLines literal indent (cs.length + 1) ⟨[], none, false, gap⟩
    let tail := match chomping with
      | .strip => []
      | .clip => block.lastBreak.toList
      | .keep => block.gap.breaks ++ block.lastBreak.toList
    some ⟨(tail ++ block.text).reverse, block.gap.rest, false⟩

end SoloMining.Yaml
