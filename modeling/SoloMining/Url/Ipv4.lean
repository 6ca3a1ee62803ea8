import SoloMining.Text.Radix
import SoloMining.Text.Split

/-! IPv4 addresses as web addresses allow them: one to four numbers, the last of which fills all
remaining bytes, each in decimal, octal or hexadecimal. -/
namespace SoloMining.Url

def digitsValue? (radix : Nat) (cs : List Char) : Option Nat :=
  cs.foldl (fun value c => do
    let v ← value
    let d ← Text.digitValue? radix c
    some (v * radix + d)) (some 0)

def ipv4Number? : List Char → Option Nat
  | [] => none
  | '0' :: 'x' :: rest => digitsValue? 16 rest
  | '0' :: 'X' :: rest => digitsValue? 16 rest
  | '0' :: c :: rest => digitsValue? 8 (c :: rest)
  | cs => digitsValue? 10 cs

def ipv4Parts (cs : List Char) : List (List Char) :=
  let parts := Text.splitAll '.' cs
  if parts.getLast? = some [] then parts.dropLast else parts

/-- A host is meant as an address if its last part is a number. -/
def endsInNumber (cs : List Char) : Bool :=
  match (ipv4Parts cs).getLast? with
  | some part => (!part.isEmpty && part.all fun c => '0' ≤ c && c ≤ '9') || (ipv4Number? part).isSome
  | none => false

def joinIpv4 (room : Nat) : List Nat → Option Nat
  | [] => none
  | [last] => if last < Nat.pow 256 room then some last else none
  | byte :: rest =>
    if byte < 256 then (joinIpv4 (room - 1) rest).map (byte * Nat.pow 256 (room - 1) + ·) else none

def parseIpv4? (cs : List Char) : Option Nat :=
  let parts := ipv4Parts cs
  if 4 < parts.length then none else (parts.mapM ipv4Number?).bind (joinIpv4 4)

end SoloMining.Url
