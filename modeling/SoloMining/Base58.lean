import SoloMining.Sha256

/-! Base58Check text of byte strings: base-58 digits without look-alike letters, one leading '1'
per leading zero byte, and a four-byte checksum behind the payload. -/
namespace SoloMining.Base58

def alphabet : List Char :=
  "123456789ABCDEFGHJKLMNPQRSTUVWXYZabcdefghijkmnopqrstuvwxyz".toList

inductive Fault
  | badDigit
  | tooShort
  | badChecksum
deriving DecidableEq

def Fault.message : Fault → String
  | .badDigit => "decode"
  | .tooShort => "too short"
  | .badChecksum => "incorrect checksum"

def digitsAux (base : Nat) (h : 2 ≤ base) (n : Nat) (acc : List Nat) : List Nat :=
  if _h : n = 0 then acc else digitsAux base h (n / base) (n % base :: acc)
termination_by n
decreasing_by exact Nat.div_lt_self (by omega) h

def digits (base : Nat) (h : 2 ≤ base) (n : Nat) : List Nat := digitsAux base h n []

def ofDigits (base : Nat) (ds : List Nat) : Nat := ds.foldl (fun n d => n * base + d) 0

def digitValue? (c : Char) : Option Nat := alphabet.findIdx? (· == c)

def encodeChars (bytes : Bytes) : List Char :=
  let zeros := (bytes.takeWhile (· == 0)).length
  let value := ofDigits 256 (bytes.map UInt8.toNat)
  List.replicate zeros '1' ++ (digits 58 (by decide) value).map fun d => alphabet.getD d '1'

def decodeChars (cs : List Char) : Except Fault Bytes :=
  match cs.mapM digitValue? with
  | none => .error .badDigit
  | some ds =>
    let zeros := (cs.takeWhile (· == '1')).length
    .ok (List.replicate zeros 0 ++ (digits 256 (by decide) (ofDigits 58 ds)).map UInt8.ofNat)

def checksum (payload : Bytes) : Bytes := (Sha256.double payload).bytes.take 4

def encodeCheck (payload : Bytes) : String :=
  String.ofList (encodeChars (payload ++ checksum payload))

def decodeCheck (text : String) : Except Fault Bytes := do
  let bytes ← decodeChars text.toList
  if bytes.length < 4 then .error .tooShort
  else
    let payload := bytes.take (bytes.length - 4)
    if bytes.drop (bytes.length - 4) = checksum payload then .ok payload
    else .error .badChecksum

end SoloMining.Base58
