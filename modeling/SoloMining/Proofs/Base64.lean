import SoloMining.Base64

/-! Base64 text reads back as the bytes that were written. -/
namespace SoloMining.Base64

theorem digitValue_digit : ∀ n < 64, digitValue? (digit n) = some n := by decide

theorem digit_ne_padding (n : Nat) (small : n < 64) : digit n ≠ '=' := by
  intro padding
  have value := digitValue_digit n small
  rw [padding] at value
  cases value

/-- A group without padding stands for three bytes, whatever comes after it. -/
theorem decodeChars_group (x y z w : Nat) (rest : List Char) (hx : x < 64) (hy : y < 64)
    (hz : z < 64) (hw : w < 64) :
    decodeChars (digit x :: digit y :: digit z :: digit w :: rest) =
      (decodeChars rest).map fun tail => UInt8.ofNat (x * 4 + y / 16)
        :: UInt8.ofNat (y % 16 * 16 + z / 4) :: UInt8.ofNat (z % 4 * 64 + w) :: tail := by
  have plain := digit_ne_padding w hw
  rw [decodeChars]
  · simp only [digitValue_digit,hx,hy,hz,hw,Option.bind_eq_bind,Option.bind_some]
    cases decodeChars rest <;> rfl
  · intro _ padding _
    exact plain padding
  · intro padding _
    exact plain padding

/-- One byte is left: two digits, of which the second keeps four bits free. -/
theorem decodeChars_one (x y : Nat) (hx : x < 64) (hy : y < 64) (spare : y % 16 = 0) :
    decodeChars [digit x,digit y,'=','='] = some [UInt8.ofNat (x * 4 + y / 16)] := by
  rw [decodeChars]
  simp [digitValue_digit,hx,hy,spare]

/-- Two bytes are left: three digits, of which the third keeps two bits free. -/
theorem decodeChars_two (x y z : Nat) (hx : x < 64) (hy : y < 64) (hz : z < 64)
    (spare : z % 4 = 0) :
    decodeChars [digit x,digit y,digit z,'='] =
      some [UInt8.ofNat (x * 4 + y / 16),UInt8.ofNat (y % 16 * 16 + z / 4)] := by
  rw [decodeChars]
  · simp [digitValue_digit,hx,hy,hz,spare]
  · exact digit_ne_padding z hz

private theorem ofNat_eq (byte : UInt8) (n : Nat) (same : n = byte.toNat) :
    UInt8.ofNat n = byte := by
  rw [same,UInt8.ofNat_toNat]

theorem decodeChars_encodeChars (bytes : Bytes) : decodeChars (encodeChars bytes) = some bytes := by
  fun_induction encodeChars bytes with
  | case1 => rfl
  | case2 a =>
    have first := a.toNat_lt
    rw [decodeChars_one _ _ (by omega) (by omega) (by omega),ofNat_eq a _ (by omega)]
  | case3 a b =>
    have first := a.toNat_lt
    have second := b.toNat_lt
    rw [decodeChars_two _ _ _ (by omega) (by omega) (by omega) (by omega),
      ofNat_eq a _ (by omega),ofNat_eq b _ (by omega)]
  | case4 a b c rest ih =>
    have first := a.toNat_lt
    have second := b.toNat_lt
    have third := c.toNat_lt
    rw [decodeChars_group _ _ _ _ _ (by omega) (by omega) (by omega) (by omega),ih,
      Option.map_some,ofNat_eq a _ (by omega),ofNat_eq b _ (by omega),ofNat_eq c _ (by omega)]

theorem decodeChars_encode (bytes : Bytes) : decodeChars (encode bytes).toList = some bytes := by
  rw [encode,String.toList_ofList,decodeChars_encodeChars]

end SoloMining.Base64
