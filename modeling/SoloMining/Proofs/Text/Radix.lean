import SoloMining.Text.Radix
import Mathlib.Logic.Function.Basic
import Mathlib.Tactic.IntervalCases

/-! Written numbers read back, and hexadecimal ones however far they are padded, so distinct numbers have
distinct texts of every width. Reading takes exactly the digits of a number below the bound, and one
plus sign in front of them. -/
namespace SoloMining.Text

private theorem digitValue_digitChar (radix d : Nat) (known : radix ≤ 16) (small : d < radix) :
    digitValue? radix (Nat.digitChar d) = some d := by
  have values : ∀ d < 16, ∀ radix ≤ 16, d < radix → digitValue? radix (Nat.digitChar d) = some d := by
    decide
  exact values d (by omega) radix known small

theorem readDigits_append (radix bound value : Nat) (first second : List Char) :
    readDigits radix bound value (first ++ second) =
      (readDigits radix bound value first).bind fun middle =>
        readDigits radix bound middle second := by
  induction first generalizing value with
  | nil => rfl
  | cons c rest ih =>
    simp only [List.cons_append,readDigits]
    split
    · rfl
    · split
      · exact ih _
      · rfl

private theorem readDigits_digitChar (radix bound value d : Nat) (known : radix ≤ 16)
    (small : d < radix) (fits : value * radix + d < bound) :
    readDigits radix bound value [Nat.digitChar d] = .ok (value * radix + d) := by
  simp only [readDigits,digitValue_digitChar radix d known small,fits,if_true]

theorem readDigits_toDigits (radix bound n : Nat) (positional : 1 < radix) (known : radix ≤ 16)
    (fits : n < bound) : readDigits radix bound 0 (Nat.toDigits radix n) = .ok n := by
  induction n using Nat.strong_induction_on with
  | _ n ih =>
    rw [Nat.toDigits_eq_if positional]
    split
    next small =>
      have read := readDigits_digitChar radix bound 0 n known small (by omega)
      simpa using read
    next large =>
      have shorter : n / radix < n := Nat.div_lt_self (by omega) positional
      have whole : n / radix * radix + n % radix = n := Nat.div_add_mod' n radix
      rw [readDigits_append,ih (n / radix) shorter (by omega)]
      have read := readDigits_digitChar radix bound (n / radix) (n % radix) known
        (Nat.mod_lt n (by omega)) (by omega)
      rw [whole] at read
      exact read

private theorem readDigits_zeros (bound count : Nat) (positive : 0 < bound) (rest : List Char) :
    readDigits 16 bound 0 (List.replicate count '0' ++ rest) = readDigits 16 bound 0 rest := by
  induction count with
  | zero => simp
  | succ count ih =>
    have zero : digitValue? 16 '0' = some 0 := by decide
    simp only [List.replicate_succ,List.cons_append,readDigits,zero,Nat.zero_mul,Nat.add_zero,
      positive,if_true]
    exact ih

theorem readDigits_paddedHex (width bound n : Nat) (fits : n < bound) :
    readDigits 16 bound 0 (paddedHex width n).toList = .ok n := by
  simp only [paddedHex,String.toList_ofList]
  rw [readDigits_zeros bound _ (by omega)]
  exact readDigits_toDigits 16 bound n (by decide) (by decide) fits

theorem paddedHex_injective (width : Nat) : Function.Injective (paddedHex width) := by
  intro m n same
  have left := readDigits_paddedHex width (max m n + 1) m (by omega)
  have right := readDigits_paddedHex width (max m n + 1) n (by omega)
  rw [same,right] at left
  exact (Except.ok.inj left).symm

def IsHexDigit (c : Char) : Prop :=
  ('0' ≤ c ∧ c ≤ '9') ∨ ('a' ≤ c ∧ c ≤ 'f') ∨ ('A' ≤ c ∧ c ≤ 'F')

theorem isHexDigit_iff (c : Char) : IsHexDigit c ↔ (digitValue? 16 c).isSome := by
  have order (a b : Char) : a ≤ b ↔ a.toNat ≤ b.toNat := UInt32.le_iff_toNat_le
  simp only [IsHexDigit,digitValue?,order]
  split_ifs with decimal lower upper value <;> simp at * <;> omega

def accumulate (radix value : Nat) (digits : List Char) : Nat :=
  digits.foldl (fun value c => value * radix + (digitValue? radix c).getD 0) value

theorem le_accumulate (radix value : Nat) (digits : List Char) (positive : 0 < radix) :
    value ≤ accumulate radix value digits := by
  induction digits generalizing value with
  | nil => exact Nat.le_refl value
  | cons c rest ih =>
    have grown := Nat.le_mul_of_pos_right value positive
    have more := ih (value * radix + (digitValue? radix c).getD 0)
    rw [accumulate,List.foldl_cons]
    exact Nat.le_trans (by omega) more

/-- The bound is checked at every digit, but only the whole number matters. -/
theorem readDigits_eq_ok (radix bound value n : Nat) (digits : List Char) (positive : 0 < radix)
    (below : value < bound) : readDigits radix bound value digits = .ok n ↔
      (∀ c ∈ digits, (digitValue? radix c).isSome) ∧ accumulate radix value digits = n ∧
        n < bound := by
  induction digits generalizing value with
  | nil =>
    simp only [readDigits,accumulate,List.foldl_nil,Except.ok.injEq,List.not_mem_nil,
      false_implies,implies_true,true_and]
    constructor
    · rintro rfl
      exact ⟨rfl,below⟩
    · exact And.left
  | cons c rest ih =>
    rw [readDigits,accumulate,List.foldl_cons,List.forall_mem_cons]
    cases digit : digitValue? radix c with
    | none => simp
    | some d =>
      simp only [Option.isSome_some,true_and,Option.getD_some]
      split
      next reached => exact ih _ reached
      next exceeded =>
        have least := le_accumulate radix (value * radix + d) rest positive
        simp only [reduceCtorEq,false_iff,not_and,Nat.not_lt]
        rintro _ rfl
        exact Nat.le_trans (Nat.le_of_not_lt exceeded) least

/-- Digits of a number below a bound, behind at most one plus sign. -/
def HexNumeral (bound : Nat) (text : List Char) : Prop :=
  ∃ digits, (text = digits ∨ text = '+' :: digits) ∧ digits ≠ [] ∧
    (∀ c ∈ digits, IsHexDigit c) ∧ accumulate 16 0 digits < bound

theorem exists_readDigits (bound : Nat) (digits : List Char) (positive : 0 < bound) :
    (∃ n, readDigits 16 bound 0 digits = .ok n) ↔
      (∀ c ∈ digits, IsHexDigit c) ∧ accumulate 16 0 digits < bound := by
  simp only [readDigits_eq_ok 16 bound 0 _ digits (by decide) positive,isHexDigit_iff]
  constructor
  · rintro ⟨n,valid,rfl,fits⟩
    exact ⟨valid,fits⟩
  · rintro ⟨valid,fits⟩
    exact ⟨_,valid,rfl,fits⟩

theorem exists_readNatural (bound : Nat) (text : List Char) (positive : 0 < bound) :
    (∃ n, readNatural 16 bound text = .ok n) ↔ HexNumeral bound text := by
  have sign : ¬ IsHexDigit '+' := by rw [isHexDigit_iff]; decide
  unfold readNatural HexNumeral
  split
  next => simp
  next =>
    constructor
    · simp
    · rintro ⟨digits,rfl | same,nonempty,valid,_⟩
      · exact absurd (valid '+' (by simp)) sign
      · exact absurd (List.cons.inj same).2.symm nonempty
  next rest nonempty =>
    rw [exists_readDigits bound rest positive]
    constructor
    · rintro ⟨valid,fits⟩
      exact ⟨rest,.inr rfl,fun none => nonempty none,valid,fits⟩
    · rintro ⟨digits,rfl | same,_,valid,fits⟩
      · exact absurd (valid '+' (by simp)) sign
      · cases (List.cons.inj same).2
        exact ⟨valid,fits⟩
  next nonempty _ unsigned =>
    rw [exists_readDigits bound text positive]
    constructor
    · rintro ⟨valid,fits⟩
      exact ⟨text,.inl rfl,nonempty,valid,fits⟩
    · rintro ⟨digits,rfl | same,_,valid,fits⟩
      · exact ⟨valid,fits⟩
      · exact absurd same (unsigned digits)

end SoloMining.Text
