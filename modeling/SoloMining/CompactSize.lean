import SoloMining.Bytes

/-! The variable-length count written before lists and strings in a block: one byte below 253,
otherwise a marker and 2, 4 or 8 bytes. Reading accepts only the shortest form. -/
namespace SoloMining.CompactSize

def encode (n : Nat) : Bytes :=
  if n < 253 then [UInt8.ofNat n]
  else if n < UInt16.size then 253 :: Bytes.ofNatLE 2 n
  else if n < UInt32.size then 254 :: Bytes.ofNatLE 4 n
  else 255 :: Bytes.ofNatLE 8 n

def decodeFixed (width least : Nat) (bytes : Bytes) : Option (Nat × Bytes) :=
  let value := Bytes.toNatLE (bytes.take width)
  if width ≤ bytes.length ∧ least ≤ value then some (value, bytes.drop width) else none

def decode : Bytes → Option (Nat × Bytes)
  | [] => none
  | marker :: rest =>
    if marker < 253 then some (marker.toNat, rest)
    else if marker = 253 then decodeFixed 2 253 rest
    else if marker = 254 then decodeFixed 4 UInt16.size rest
    else decodeFixed 8 UInt32.size rest

end SoloMining.CompactSize
