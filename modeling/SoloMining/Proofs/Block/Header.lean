import SoloMining.Block.Header
import SoloMining.Proofs.Bytes

/-! Headers read back. The nonce stands in the last four of the 80 bytes, so headers that differ in
the nonce alone differ nowhere else. -/
namespace SoloMining

def Bytes.take32 (bytes : Bytes) : Option (UInt32 × Bytes) :=
  if 4 ≤ bytes.length then some (UInt32.ofNat (toNatLE (bytes.take 4)), bytes.drop 4) else none

def Bytes.takeWord (bytes : Bytes) : Option (Bytes32 × Bytes) :=
  (Bytes32.ofBytes? (bytes.take 32)).map fun word => (word, bytes.drop 32)

theorem Bytes.take32_le32 (n : UInt32) (rest : Bytes) :
    take32 (le32 n ++ rest) = some (n,rest) := by
  have front : (le32 n ++ rest).take 4 = le32 n := List.take_left' (length_le32 n)
  have back : (le32 n ++ rest).drop 4 = rest := List.drop_left' (length_le32 n)
  simp [take32,front,back,toNatLE_le32]

theorem Bytes.takeWord_bytes (word : Bytes32) (rest : Bytes) :
    takeWord (word.bytes ++ rest) = some (word,rest) := by
  have front : (word.bytes ++ rest).take 32 = word.bytes := List.take_left' word.length_bytes
  have back : (word.bytes ++ rest).drop 32 = rest := List.drop_left' word.length_bytes
  have whole := (Bytes32.ofBytes?_eq_some word.bytes word).mpr rfl
  simp [takeWord,front,back,whole]

namespace Header

def decode (bytes : Bytes) : Option (Header × Bytes) := do
  let (version, bytes) ← Bytes.take32 bytes
  let (previousHash, bytes) ← Bytes.takeWord bytes
  let (merkleRoot, bytes) ← Bytes.takeWord bytes
  let (time, bytes) ← Bytes.take32 bytes
  let (bits, bytes) ← Bytes.take32 bytes
  let (nonce, bytes) ← Bytes.take32 bytes
  pure (⟨version.toInt32, previousHash, merkleRoot, time, bits, ⟨nonce⟩⟩, bytes)

def stem (header : Header) : Bytes :=
  Bytes.le32 header.version.toUInt32 ++ header.previousHash.bytes ++ header.merkleRoot.bytes
    ++ Bytes.le32 header.time ++ Bytes.le32 header.bits

theorem length_stem (header : Header) : header.stem.length = nonceOffset := by
  simp [stem,header.previousHash.length_bytes,header.merkleRoot.length_bytes,nonceOffset]

theorem bytes_eq (header : Header) : header.bytes = header.stem ++ header.nonce.bytes := rfl

theorem length_bytes (header : Header) : header.bytes.length = size := by
  rw [bytes_eq,List.length_append,length_stem]
  simp [Nonce.bytes,nonceOffset,size]

end Header

end SoloMining
