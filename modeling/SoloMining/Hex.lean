import SoloMining.Bytes
import SoloMining.Text.Quoted

/-! Hexadecimal text of byte strings. Digits are written in lower case and read in either case.
Reading works on the UTF-8 bytes of a text, so a fault is located by its byte. -/
namespace SoloMining.Hex

inductive Fault
  | oddLength
  | wrongLength
  | badDigit (byte : UInt8) (position : Nat)
deriving DecidableEq

/-- A byte that is no digit is shown as the character of the same code. -/
def Fault.message : Fault → String
  | .oddLength => "Odd number of digits"
  | .wrongLength => "Invalid string length"
  | .badDigit byte position =>
    "Invalid character " ++ Text.quotedChar (Char.ofNat byte.toNat) ++ " at position "
      ++ toString position

def digit (n : Nat) : Char :=
  if n < 10 then Char.ofNat (48 + n) else Char.ofNat (87 + n)

def encodeChars : Bytes → List Char
  | [] => []
  | b :: rest => digit (b.toNat / 16) :: digit (b.toNat % 16) :: encodeChars rest

def encode (bytes : Bytes) : String := String.ofList (encodeChars bytes)

def digitValue? (b : UInt8) : Option Nat :=
  if 48 ≤ b ∧ b ≤ 57 then some (b.toNat - 48)
  else if 97 ≤ b ∧ b ≤ 102 then some (b.toNat - 87)
  else if 65 ≤ b ∧ b ≤ 70 then some (b.toNat - 55)
  else none

def decodePairs (position : Nat) : Bytes → Except Fault Bytes
  | [] => .ok []
  | [_] => .error .oddLength
  | high :: low :: rest =>
    match digitValue? high, digitValue? low with
    | none, _ => .error (.badDigit high position)
    | some _, none => .error (.badDigit low (position + 1))
    | some h, some l => do
      let tail ← decodePairs (position + 2) rest
      pure (UInt8.ofNat (16 * h + l) :: tail)

def decodeBytes (text : Bytes) : Except Fault Bytes :=
  if text.length % 2 = 1 then .error .oddLength else decodePairs 0 text

def utf8 (s : String) : Bytes := s.toUTF8.toList

def decode (s : String) : Except Fault Bytes := decodeBytes (utf8 s)

def decode32 (s : String) : Except Fault Bytes32 :=
  let text := utf8 s
  if text.length % 2 = 1 then .error .oddLength
  else if text.length = 64 then do
    let bytes ← decodePairs 0 text
    match Bytes32.ofBytes? bytes with
    | some word => .ok word
    | none => .error .wrongLength
  else .error .wrongLength

end SoloMining.Hex
