import SoloMining.Text.Radix
import SoloMining.Text.Split

/-! IPv6 addresses: eight pieces of up to four hexadecimal digits, where one run of zero pieces may
be written as two colons and the last two pieces as an IPv4 address. -/
namespace SoloMining.Url

def ipv6Piece? (cs : List Char) : Option Nat :=
  if cs.isEmpty || 4 < cs.length then none
  else cs.foldl (fun value c => do
    let v ← value
    let d ← Text.digitValue? 16 c
    some (v * 16 + d)) (some 0)

def decimalByte? : List Char → Option Nat
  | [] => none
  | ['0'] => some 0
  | '0' :: _ => none
  | cs => (Text.readDigits 10 256 0 cs).toOption

def dottedPieces? (cs : List Char) : Option (List Nat) :=
  match (Text.splitAll '.' cs).mapM decimalByte? with
  | some [a, b, c, d] => some [a * 256 + b, c * 256 + d]
  | _ => none

/-- Pieces between colons. Only where the address ends may the last be dotted. -/
def piecesOf? (last : Bool) : List (List Char) → Option (List Nat)
  | [] => some []
  | [part] =>
    if last && part.contains '.' then dottedPieces? part
    else (ipv6Piece? part).map fun piece => [piece]
  | part :: rest => do
    let piece ← ipv6Piece? part
    let pieces ← piecesOf? last rest
    some (piece :: pieces)

def splitCompressed : List Char → Option (List Char × List Char)
  | [] => none
  | ':' :: ':' :: rest => some ([], rest)
  | c :: rest => (splitCompressed rest).map fun (before, after) => (c :: before, after)

def sidePieces? (last : Bool) (cs : List Char) : Option (List Nat) :=
  if cs.isEmpty then some [] else piecesOf? last (Text.splitAll ':' cs)

/-- The eight pieces of an address. Two colons stand for one zero piece at least. -/
def parseIpv6? (cs : List Char) : Option (List Nat) := do
  match splitCompressed cs with
  | some (before, after) => do
    let left ← sidePieces? false before
    let right ← sidePieces? true after
    let size := left.length + right.length
    if size < 8 then some (left ++ List.replicate (8 - size) 0 ++ right) else none
  | none => do
    let pieces ← sidePieces? true cs
    if pieces.length = 8 then some pieces else none

end SoloMining.Url
