/-! Byte strings, 32-byte words and fixed-width little-endian integers. -/
namespace SoloMining

abbrev Bytes := List UInt8

namespace Bytes

def toNatLE : Bytes → Nat
  | [] => 0
  | b :: rest => b.toNat + 256 * toNatLE rest

def ofNatLE : (width value : Nat) → Bytes
  | 0, _ => []
  | width + 1, value => UInt8.ofNat value :: ofNatLE width (value / 256)

theorem length_ofNatLE (width value : Nat) : (ofNatLE width value).length = width := by
  induction width generalizing value with
  | zero => rfl
  | succ width ih => simp [ofNatLE, ih]

def lexCompare : Bytes → Bytes → Ordering
  | [], [] => .eq
  | [], _ :: _ => .lt
  | _ :: _, [] => .gt
  | a :: as, b :: bs => if a < b then .lt else if b < a then .gt else lexCompare as bs

def le32 (n : UInt32) : Bytes := ofNatLE 4 n.toNat

def le64 (n : UInt64) : Bytes := ofNatLE 8 n.toNat

end Bytes

/-- Exactly 32 bytes: a hash, or a 256-bit number with its least significant byte first. -/
structure Bytes32 where
  bytes : Bytes
  length_bytes : bytes.length = 32
deriving DecidableEq

namespace Bytes32

def zero : Bytes32 := ⟨List.replicate 32 0, by simp⟩

def ofBytes? (bytes : Bytes) : Option Bytes32 :=
  if h : bytes.length = 32 then some ⟨bytes, h⟩ else none

def reverse (word : Bytes32) : Bytes32 := ⟨word.bytes.reverse, by simp [word.length_bytes]⟩

def toNat (word : Bytes32) : Nat := Bytes.toNatLE word.bytes

def compare (a b : Bytes32) : Ordering :=
  Bytes.lexCompare a.bytes.reverse b.bytes.reverse

instance : Inhabited Bytes32 := ⟨zero⟩

end Bytes32

end SoloMining
