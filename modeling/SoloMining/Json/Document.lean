import SoloMining.Json.Basic
import SoloMining.Decimal.Reading

/-! JSON text, read as far as it is well formed. A document keeps the members of an object in the
order of the text, repeated keys included, and marks the place where the text breaks. Some parts of
a well-formed text can be skipped but not read: a string with half a surrogate pair, and a number
beyond every float. -/
namespace SoloMining.Json

inductive Document
  | malformed
  | null
  | bool (b : Bool)
  | number (n : Option Number)
  | string (s : Option String)
  | array (items : List Document)
  | object (members : List (Option String × Document))

namespace Document

instance : Inhabited Document := ⟨.malformed⟩

def isBlank (c : Char) : Bool := c == ' ' || c == '\n' || c == '\t' || c == '\r'

def skipBlanks : List Char → List Char
  | [] => []
  | c :: rest => if isBlank c then skipBlanks rest else c :: rest

def isDigit (c : Char) : Bool := '0' ≤ c && c ≤ '9'

def hexValue? (c : Char) : Option Nat :=
  if '0' ≤ c && c ≤ '9' then some (c.toNat - 48)
  else if 'a' ≤ c && c ≤ 'f' then some (c.toNat - 87)
  else if 'A' ≤ c && c ≤ 'F' then some (c.toNat - 55)
  else none

def hexUnit? (a b c d : Char) : Option Nat := do
  let w ← hexValue? a
  let x ← hexValue? b
  let y ← hexValue? c
  let z ← hexValue? d
  some (4096 * w + 256 * x + 16 * y + z)

def isHighSurrogate (unit : Nat) : Bool := 0xD800 ≤ unit && unit ≤ 0xDBFF

def isLowSurrogate (unit : Nat) : Bool := 0xDC00 ≤ unit && unit ≤ 0xDFFF

def escapedChar? (c : Char) : Option Char :=
  if c = '"' then some '"'
  else if c = '\\' then some '\\'
  else if c = '/' then some '/'
  else if c = 'b' then some (Char.ofNat 8)
  else if c = 'f' then some (Char.ofNat 12)
  else if c = 'n' then some '\n'
  else if c = 'r' then some '\r'
  else if c = 't' then some '\t'
  else none

/-- A piece of a string: a character, or half of a surrogate pair given by an escape. -/
inductive Piece
  | char (c : Char)
  | half (unit : Nat)

def Piece.ofUnit (unit : Nat) : Piece :=
  if isHighSurrogate unit || isLowSurrogate unit then .half unit else .char (Char.ofNat unit)

def pushPiece (piece : Piece) : List Piece × List Char → List Piece × List Char
  | (pieces, rest) => (piece :: pieces, rest)

def readPieces : List Char → Option (List Piece × List Char)
  | [] => none
  | '"' :: rest => some ([], rest)
  | '\\' :: 'u' :: a :: b :: c :: d :: rest =>
    match hexUnit? a b c d with
    | some unit => (readPieces rest).map (pushPiece (.ofUnit unit))
    | none => none
  | '\\' :: c :: rest =>
    match escapedChar? c with
    | some e => (readPieces rest).map (pushPiece (.char e))
    | none => none
  | c :: rest =>
    if c.toNat < 32 ∨ c = '\\' then none else (readPieces rest).map (pushPiece (.char c))

def joinPieces : List Piece → Option (List Char)
  | [] => some []
  | .char c :: rest => (joinPieces rest).map (c :: ·)
  | .half high :: .half low :: rest =>
    if isHighSurrogate high && isLowSurrogate low then
      (joinPieces rest).map
        (Char.ofNat (0x10000 + 1024 * (high - 0xD800) + (low - 0xDC00)) :: ·)
    else none
  | [.half _] => none
  | .half _ :: .char _ :: _ => none

def readString (cs : List Char) : Option (Option (List Char) × List Char) :=
  (readPieces cs).map fun (pieces, rest) => (joinPieces pieces, rest)

def takeDigits (cs : List Char) : List Char × List Char := (cs.takeWhile isDigit, cs.dropWhile isDigit)

def readWhole (cs : List Char) : Option (List Char × List Char) :=
  match takeDigits cs with
  | ([], _) => none
  | (['0'], rest) => some (['0'], rest)
  | ('0' :: _, _) => none
  | (ds, rest) => some (ds, rest)

def readFraction : List Char → Option (List Char × List Char)
  | '.' :: cs =>
    match takeDigits cs with
    | ([], _) => none
    | (ds, rest) => some (ds, rest)
  | cs => some ([], cs)

def readSign : List Char → Bool × List Char
  | '+' :: cs => (false, cs)
  | '-' :: cs => (true, cs)
  | cs => (false, cs)

def readExponentDigits (cs : List Char) : Option (Option Int × List Char) :=
  let (negative, digits) := readSign cs
  match takeDigits digits with
  | ([], _) => none
  | (ds, rest) =>
    let size : Int := Decimal.digitsValue ds
    some (some (if negative then -size else size), rest)

def readExponent : List Char → Option (Option Int × List Char)
  | 'e' :: cs => readExponentDigits cs
  | 'E' :: cs => readExponentDigits cs
  | cs => some (none, cs)

/-- Without fraction and exponent a number is an integer if it fits in 64 bits, signed when it is
negative; a negative zero is a float. -/
def numberOf (negative : Bool) (whole fraction : List Char) (exponent : Option Int) :
    Option Number :=
  let size := Decimal.digitsValue whole
  let isInteger := fraction.isEmpty && exponent.isNone
  if isInteger && !negative && size < UInt64.size then some (.integer size)
  else if isInteger && negative && 0 < size && size ≤ Int64.minValue.toInt.natAbs then
    some (.integer (-size))
  else (Decimal.toFloat? negative whole fraction (exponent.getD 0)).map .float

def readNumber (negative : Bool) (cs : List Char) : Option (Option Number × List Char) := do
  let (whole, rest) ← readWhole cs
  let (fraction, rest) ← readFraction rest
  let (exponent, rest) ← readExponent rest
  some (numberOf negative whole fraction exponent, rest)

/-- What was read, and the rest of the text unless it broke. -/
abbrev Reading (α : Type) := α × Option (List Char)

def broken : Reading Document := (.malformed, none)

mutual

def readValue : (fuel : Nat) → List Char → Reading Document
  | 0, _ => broken
  | fuel + 1, cs =>
    match skipBlanks cs with
    | 'n' :: 'u' :: 'l' :: 'l' :: rest => (.null, some rest)
    | 't' :: 'r' :: 'u' :: 'e' :: rest => (.bool true, some rest)
    | 'f' :: 'a' :: 'l' :: 's' :: 'e' :: rest => (.bool false, some rest)
    | '"' :: rest =>
      match readString rest with
      | none => broken
      | some (body, rest) => (.string (body.map String.ofList), some rest)
    | '[' :: rest =>
      match skipBlanks rest with
      | ']' :: rest => (.array [], some rest)
      | rest =>
        let (items, after) := readItems fuel rest
        (.array items, after)
    | '\x7b' :: rest =>
      match skipBlanks rest with
      | '\x7d' :: rest => (.object [], some rest)
      | rest =>
        let (members, after) := readMembers fuel rest
        (.object members, after)
    | '-' :: rest =>
      match readNumber true rest with
      | none => broken
      | some (n, rest) => (.number n, some rest)
    | rest =>
      match readNumber false rest with
      | none => broken
      | some (n, rest) => (.number n, some rest)

def readItems : (fuel : Nat) → List Char → Reading (List Document)
  | 0, _ => ([.malformed], none)
  | fuel + 1, cs =>
    match readValue fuel cs with
    | (item, none) => ([item], none)
    | (item, some rest) =>
      match skipBlanks rest with
      | ']' :: rest => ([item], some rest)
      | ',' :: rest =>
        let (items, after) := readItems fuel rest
        (item :: items, after)
      | _ => ([item, .malformed], none)

/-- Members behind an opening brace or a comma; a break becomes a last malformed member, which has
no key when the key itself is broken. -/
def readMembers : (fuel : Nat) → List Char → Reading (List (Option String × Document))
  | 0, _ => ([(none, .malformed)], none)
  | fuel + 1, cs =>
    match skipBlanks cs with
    | '"' :: rest =>
      match readString rest with
      | none => ([(none, .malformed)], none)
      | some (body, rest) =>
        let key := body.map String.ofList
        match skipBlanks rest with
        | ':' :: rest =>
          match readValue fuel rest with
          | (value, none) => ([(key, value)], none)
          | (value, some rest) =>
            match skipBlanks rest with
            | '\x7d' :: rest => ([(key, value)], some rest)
            | ',' :: rest =>
              let (members, after) := readMembers fuel rest
              ((key, value) :: members, after)
            | _ => ([(key, value), (none, .malformed)], none)
        | _ => ([(key, .malformed)], none)
    | _ => ([(none, .malformed)], none)

end

/-- A whole text: its document, and whether nothing but blanks follows. -/
def ofChars (cs : List Char) : Document × Bool :=
  match readValue (2 * cs.length + 2) cs with
  | (doc, none) => (doc, false)
  | (doc, some rest) => (doc, (skipBlanks rest).isEmpty)

def ofText (s : String) : Document × Bool := ofChars s.toList

mutual

def wellFormed : Document → Bool
  | .malformed => false
  | .array items => wellFormedItems items
  | .object members => wellFormedMembers members
  | _ => true

def wellFormedItems : List Document → Bool
  | [] => true
  | item :: rest => wellFormed item && wellFormedItems rest

def wellFormedMembers : List (Option String × Document) → Bool
  | [] => true
  | (_, value) :: rest => wellFormed value && wellFormedMembers rest

end

mutual

def nesting : Document → Nat
  | .array items => nestingItems items + 1
  | .object members => nestingMembers members + 1
  | _ => 0

def nestingItems : List Document → Nat
  | [] => 0
  | item :: rest => max (nesting item) (nestingItems rest)

def nestingMembers : List (Option String × Document) → Nat
  | [] => 0
  | (_, value) :: rest => max (nesting value) (nestingMembers rest)

end

mutual

def toJson? : (depth : Nat) → Document → Option Json
  | _, .malformed => none
  | _, .null => some .null
  | _, .bool b => some (.bool b)
  | _, .number n => n.map .number
  | _, .string s => s.map .string
  | 0, .array _ => none
  | 0, .object _ => none
  | depth + 1, .array items => (itemsToJson? depth items).map .array
  | depth + 1, .object members => (membersToJson? depth members).map Json.ofMembers

def itemsToJson? : (depth : Nat) → List Document → Option (List Json)
  | _, [] => some []
  | depth, item :: rest => do
    let j ← toJson? depth item
    let js ← itemsToJson? depth rest
    some (j :: js)

def membersToJson? : (depth : Nat) → List (Option String × Document) → Option (List (String × Json))
  | _, [] => some []
  | depth, (key, value) :: rest => do
    let k ← key
    let j ← toJson? depth value
    let js ← membersToJson? depth rest
    some ((k, j) :: js)

end

end Document

def maxDepth : Nat := 127

def parse? (s : String) : Option Json :=
  match Document.ofText s with
  | (doc, true) => doc.toJson? maxDepth
  | (_, false) => none

mutual

def toDocument : Json → Document
  | .null => .null
  | .bool b => .bool b
  | .number n => .number (some n)
  | .string s => .string (some s)
  | .array items => .array (itemsToDocument items)
  | .object members => .object (membersToDocument members)

def itemsToDocument : List Json → List Document
  | [] => []
  | item :: rest => toDocument item :: itemsToDocument rest

def membersToDocument : List (String × Json) → List (Option String × Document)
  | [] => []
  | (key, value) :: rest => (some key, toDocument value) :: membersToDocument rest

end

end SoloMining.Json
