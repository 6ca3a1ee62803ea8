import SoloMining.Error

/-! Mining targets: the greatest hash that solves a block, and the looser threshold that backends
work against. Both are 256-bit numbers kept with the least significant byte first, as hashes are;
nodes write them the other way round. -/
namespace SoloMining

structure Target where
  littleEndian : Bytes32
deriving DecidableEq

namespace Target

def toNat (target : Target) : Nat := target.littleEndian.toNat

def ofBytes (bytes : Bytes) : Except Error Target :=
  match Bytes32.ofBytes? bytes with
  | some word => .ok ⟨word⟩
  | none => .error (.target (.byteLength bytes.length))

def hexBE (target : Target) : String := Hex.encode target.littleEndian.reverse.bytes

def hexLE (target : Target) : String := Hex.encode target.littleEndian.bytes

def parse (text : String) : Except Error Target :=
  let length := (Hex.utf8 text).length
  if length = 64 then
    match Hex.decode32 text with
    | .ok word => .ok ⟨word.reverse⟩
    | .error fault => .error (.target (.badHex fault))
  else .error (.target (.textLength length))

def max : Target := ⟨⟨List.replicate 32 0xFF, by simp⟩⟩

def shiftUp : Bytes → Bytes
  | [] => []
  | low :: rest => low :: low :: rest.dropLast

theorem length_shiftUp (bytes : Bytes) (h : 2 ≤ bytes.length) :
    (shiftUp bytes).length = bytes.length := by
  cases bytes with
  | nil => simp at h
  | cons low rest => simp [shiftUp] at h ⊢; omega

/-- The threshold for shares, one byte looser; it saturates when the highest byte is in use. -/
def loosen (target : Target) : Target :=
  if target.littleEndian.bytes.getLast? = some 0 then
    ⟨⟨shiftUp target.littleEndian.bytes, by
      rw [length_shiftUp _ (by rw [target.littleEndian.length_bytes]; decide)]
      exact target.littleEndian.length_bytes⟩⟩
  else max

def meets (target : Target) (hash : Bytes32) : Bool :=
  Bytes32.compare hash target.littleEndian != .gt

def withThreshold (text : String) : Except Error (Target × String) := do
  let target ← parse text
  pure (target, target.loosen.hexLE)

end Target

end SoloMining
