/-! A place in YAML text, and the characters that matter to it. -/
namespace SoloMining.Yaml

def isBreak (c : Char) : Bool := c == '\n' || c.toNat == 0x2028 || c.toNat == 0x2029

def isBlank (c : Char) : Bool := c == ' ' || c == '\t'

def endsWord : List Char → Bool
  | [] => true
  | c :: _ => isBlank c || isBreak c

def endsLine : List Char → Bool
  | [] => true
  | c :: _ => isBreak c

def isNameChar (c : Char) : Bool := c.isAlphanum || c == '_' || c == '-'

/-- The mark of a document's start or end, which counts at the start of a line. -/
def startsDocumentMark : List Char → Bool
  | '-' :: '-' :: '-' :: rest => endsWord rest
  | '.' :: '.' :: '.' :: rest => endsWord rest
  | _ => false

def isAllowed (c : Char) : Bool :=
  let n := c.toNat
  n == 0x09 || n == 0x0A || n == 0x0D || (0x20 ≤ n && n ≤ 0x7E) || n == 0x85
    || (0xA0 ≤ n && n ≤ 0xD7FF) || (0xE000 ≤ n && n ≤ 0xFFFD && n != 0xFEFF) || 0x10000 ≤ n

def unifyBreaks : List Char → List Char
  | [] => []
  | '\r' :: '\n' :: rest => '\n' :: unifyBreaks rest
  | c :: rest => (if c == '\r' || c.toNat == 0x85 then '\n' else c) :: unifyBreaks rest

structure Cursor where
  rest : List Char
  index : Nat
  line : Nat
  column : Nat

namespace Cursor

def start (cs : List Char) : Cursor := ⟨cs, 0, 0, 0⟩

def advance : (n : Nat) → Cursor → Cursor
  | 0, at_ => at_
  | n + 1, at_ =>
    match at_.rest with
    | [] => at_
    | c :: rest =>
      if isBreak c then advance n ⟨rest, at_.index + 1, at_.line + 1, 0⟩
      else advance n ⟨rest, at_.index + 1, at_.line, at_.column + 1⟩

def moveTo (at_ : Cursor) (rest : List Char) : Cursor :=
  at_.advance (at_.rest.length - rest.length)

def skipWhile (p : Char → Bool) (at_ : Cursor) : Cursor := at_.moveTo (at_.rest.dropWhile p)

def skipComment (at_ : Cursor) : Cursor :=
  match at_.rest with
  | '#' :: _ => at_.skipWhile (!isBreak ·)
  | _ => at_

end Cursor

end SoloMining.Yaml
