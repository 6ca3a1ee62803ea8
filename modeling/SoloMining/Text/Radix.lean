/-! Unsigned numbers written in base 2 to 16, with one optional plus sign. -/
namespace SoloMining.Text

inductive RadixFault
  | empty
  | badDigit
  | tooLarge
deriving DecidableEq

def RadixFault.message : RadixFault → String
  | .empty => "cannot parse integer from empty string"
  | .badDigit => "invalid digit found in string"
  | .tooLarge => "number too large to fit in target type"

def digitValue? (radix : Nat) (c : Char) : Option Nat :=
  let value :=
    if '0' ≤ c ∧ c ≤ '9' then c.toNat - 48
    else if 'a' ≤ c ∧ c ≤ 'z' then c.toNat - 87
    else if 'A' ≤ c ∧ c ≤ 'Z' then c.toNat - 55
    else radix
  if value < radix then some value else none

def readDigits (radix bound : Nat) (value : Nat) : List Char → Except RadixFault Nat
  | [] => .ok value
  | c :: rest =>
    match digitValue? radix c with
    | none => .error .badDigit
    | some d =>
      let next := value * radix + d
      if next < bound then readDigits radix bound next rest else .error .tooLarge

def readNatural (radix bound : Nat) : List Char → Except RadixFault Nat
  | [] => .error .empty
  | ['+'] => .error .badDigit
  | '+' :: rest => readDigits radix bound 0 rest
  | cs => readDigits radix bound 0 cs

def paddedHex (width n : Nat) : String :=
  let ds := Nat.toDigits 16 n
  String.ofList (List.replicate (width - ds.length) '0' ++ ds)

def paddedDecimal (width n : Nat) : String :=
  let ds := Nat.toDigits 10 n
  String.ofList (List.replicate (width - ds.length) '0' ++ ds)

def decimal (n : Nat) : String := String.ofList (Nat.toDigits 10 n)

def signed (n : Int) : String := if n < 0 then "-" ++ decimal n.natAbs else decimal n.natAbs

end SoloMining.Text
