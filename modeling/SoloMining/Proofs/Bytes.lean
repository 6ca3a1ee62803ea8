import SoloMining.Bytes
import Mathlib.Data.List.Basic
import Mathlib.Data.Nat.Basic
import Mathlib.Order.Compare
import Mathlib.Tactic.Ring

/-! Byte strings as numbers. A fixed width holds a number up to its bound, and comparing byte
strings from the most significant byte on compares the numbers. -/
namespace SoloMining.Bytes

theorem toNatLE_append (low high : Bytes) :
    toNatLE (low ++ high) = toNatLE low + 256 ^ low.length * toNatLE high := by
  induction low with
  | nil => simp [toNatLE]
  | cons b rest ih =>
    simp only [List.cons_append,toNatLE,ih,List.length_cons]
    ring

theorem toNatLE_lt (bytes : Bytes) : toNatLE bytes < 256 ^ bytes.length := by
  induction bytes with
  | nil => simp [toNatLE]
  | cons b rest ih =>
    have byte := b.toNat_lt
    simp only [toNatLE,List.length_cons,Nat.pow_succ]
    omega

theorem toNatLE_injective (first second : Bytes) (length : first.length = second.length)
    (same : toNatLE first = toNatLE second) : first = second := by
  induction first generalizing second with
  | nil => exact (List.length_eq_zero_iff.mp length.symm).symm
  | cons b rest ih =>
    cases second with
    | nil => simp at length
    | cons c others =>
      have byte := b.toNat_lt
      have other := c.toNat_lt
      simp only [toNatLE] at same
      have lowest : b.toNat = c.toNat := by omega
      have higher := ih others (by simpa using length) (by omega)
      rw [UInt8.toNat_inj.mp lowest,higher]

/-- A number fits into one byte less exactly if the highest byte is zero. -/
theorem toNatLE_lt_iff (width : Nat) (bytes : Bytes) (size : bytes.length = width + 1) :
    toNatLE bytes < 256 ^ width ↔ bytes.getLast? = some 0 := by
  obtain rfl | ⟨low,high,rfl⟩ := List.eq_nil_or_concat' bytes
  · simp at size
  · rw [List.length_append,List.length_singleton] at size
    obtain rfl : width = low.length := by omega
    have fits := toNatLE_lt low
    rw [toNatLE_append,List.getLast?_concat,Option.some.injEq]
    simp only [toNatLE,Nat.mul_zero,Nat.add_zero]
    constructor
    · intro below
      by_contra set
      have positive : 0 < high.toNat := Nat.pos_of_ne_zero fun none => set (UInt8.toNat_inj.mp none)
      have weight := Nat.le_mul_of_pos_right (256 ^ low.length) positive
      omega
    · rintro rfl
      simpa using fits

theorem toNatLE_ofNatLE (width value : Nat) (fits : value < 256 ^ width) :
    toNatLE (ofNatLE width value) = value := by
  induction width generalizing value with
  | zero => simp at fits; simp [ofNatLE,toNatLE,fits]
  | succ width ih =>
    have rest : value / 256 < 256 ^ width := by
      rw [Nat.pow_succ] at fits
      exact Nat.div_lt_of_lt_mul (by omega)
    simp only [ofNatLE,toNatLE,ih (value / 256) rest,UInt8.toNat_ofNat']
    omega

@[simp] theorem length_le32 (n : UInt32) : (le32 n).length = 4 := length_ofNatLE 4 n.toNat

theorem toNatLE_le32 (n : UInt32) : toNatLE (le32 n) = n.toNat :=
  toNatLE_ofNatLE 4 n.toNat n.toNat_lt

private theorem compare_digits (base low other a b : Nat) (lowFits : low < base)
    (otherFits : other < base) : compare (low + base * a) (other + base * b) =
      if a < b then .lt else if b < a then .gt else compare low other := by
  split
  next less =>
    have gap : base * (a + 1) ≤ base * b := Nat.mul_le_mul_left base less
    rw [Nat.mul_add] at gap
    exact compare_lt_iff_lt.mpr (by omega)
  next =>
    split
    next more =>
      have gap : base * (b + 1) ≤ base * a := Nat.mul_le_mul_left base more
      rw [Nat.mul_add] at gap
      exact compare_gt_iff_gt.mpr (by omega)
    next =>
      have equal : a = b := by omega
      rw [equal]
      simp only [Nat.compare_eq_ite_lt,Nat.add_lt_add_iff_right]

/-- Of two numbers with as many bytes, the first byte from the top that differs decides. -/
theorem lexCompare_eq (first second : Bytes) (same : first.length = second.length) :
    lexCompare first second = compare (toNatLE first.reverse) (toNatLE second.reverse) := by
  induction first generalizing second with
  | nil =>
    have empty : second = [] := List.length_eq_zero_iff.mp same.symm
    subst empty
    rfl
  | cons a as ih =>
    cases second with
    | nil => simp at same
    | cons b bs =>
      have lengths : as.length = bs.length := by simpa using same
      -- After reversal the compared byte is the most significant digit of its number.
      have low := toNatLE_lt as.reverse
      have other := toNatLE_lt bs.reverse
      rw [List.length_reverse] at low other
      rw [lengths] at low
      have digits := compare_digits (256 ^ bs.length) _ _ a.toNat b.toNat low other
      simp only [lexCompare,List.reverse_cons,toNatLE_append,List.length_reverse,toNatLE,
        Nat.mul_zero,Nat.add_zero,lengths,digits,ih bs lengths,UInt8.lt_iff_toNat_lt]

end SoloMining.Bytes

namespace SoloMining.Bytes32

theorem bytes_injective : Function.Injective bytes := by
  rintro ⟨first,_⟩ ⟨second,_⟩ same
  simpa using same

theorem ofBytes?_eq_some (bytes : Bytes) (word : Bytes32) :
    ofBytes? bytes = some word ↔ bytes = word.bytes := by
  rw [ofBytes?]
  split
  next =>
    cases word
    simp
  next other =>
    simp only [reduceCtorEq,false_iff]
    rintro rfl
    exact other word.length_bytes

theorem compare_eq (a b : Bytes32) : a.compare b = Ord.compare a.toNat b.toNat := by
  have same : a.bytes.reverse.length = b.bytes.reverse.length := by
    simp [a.length_bytes,b.length_bytes]
  rw [compare,Bytes.lexCompare_eq _ _ same,List.reverse_reverse,List.reverse_reverse]
  rfl

theorem toNat_injective : Function.Injective toNat := by
  intro first second same
  apply bytes_injective
  exact Bytes.toNatLE_injective _ _ (first.length_bytes.trans second.length_bytes.symm) same

theorem compare_eq_compareOn : compare = compareOn toNat := funext fun a => funext (compare_eq a)

instance : Std.TransCmp compare := by
  rw [compare_eq_compareOn]
  infer_instance

instance : Std.LawfulEqCmp compare where
  compare_self := Std.ReflCmp.compare_self
  eq_of_compare equal := by
    rw [compare_eq] at equal
    exact toNat_injective (Nat.compare_eq_eq.mp equal)

end SoloMining.Bytes32
