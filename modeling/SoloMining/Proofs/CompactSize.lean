import SoloMining.CompactSize
import SoloMining.Proofs.Bytes

/-! A count that fits into eight bytes reads back from its encoding, whatever follows. -/
namespace SoloMining.CompactSize

theorem decodeFixed_append (width least n : Nat) (rest : Bytes) (fits : n < 256 ^ width)
    (shortest : least ≤ n) :
    decodeFixed width least (Bytes.ofNatLE width n ++ rest) = some (n,rest) := by
  have size := Bytes.length_ofNatLE width n
  have front : (Bytes.ofNatLE width n ++ rest).take width = Bytes.ofNatLE width n :=
    List.take_left' size
  have back : (Bytes.ofNatLE width n ++ rest).drop width = rest := List.drop_left' size
  have room : width ≤ (Bytes.ofNatLE width n ++ rest).length := by simp [size]
  simp only [decodeFixed,front,back,Bytes.toNatLE_ofNatLE width n fits,room,shortest,and_self,
    if_true]

/-- Each of the four forms is read as it was written. -/
theorem decode_encode (n : Nat) (rest : Bytes) (fits : n < UInt64.size) :
    decode (encode n ++ rest) = some (n,rest) := by
  unfold encode
  split
  next one =>
    have value : (UInt8.ofNat n).toNat = n := by
      apply UInt8.toNat_ofNat_of_lt
      change n < 256
      omega
    have small : UInt8.ofNat n < 253 := by
      rw [UInt8.lt_iff_toNat_lt,value]
      exact one
    simp [decode,small,value]
  next notOne =>
    split
    next two =>
      have read := decodeFixed_append 2 253 n rest two (Nat.le_of_not_lt notOne)
      simpa [decode] using read
    next notTwo =>
      split
      next four =>
        have read := decodeFixed_append 4 UInt16.size n rest four (Nat.le_of_not_lt notTwo)
        simpa [decode] using read
      next notFour =>
        have read := decodeFixed_append 8 UInt32.size n rest fits (Nat.le_of_not_lt notFour)
        simpa [decode] using read

theorem length_encode (n : Nat) : 1 ≤ (encode n).length := by
  unfold encode
  split
  · simp
  · split
    · simp
    · split <;> simp

end SoloMining.CompactSize
