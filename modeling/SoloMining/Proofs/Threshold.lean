import SoloMining.Proofs.Target

/-! Thresholds for shares. The threshold of a target below 2^248 is 256 times the target and its lowest
byte once more, and that of a higher one is the highest number there is. So a threshold is never below
its target, higher targets have no lower thresholds, and whatever solves a block is also a share. -/
namespace SoloMining

theorem Bytes.toNatLE_shiftUp (bytes : Bytes) (size : 2 ≤ bytes.length)
    (clear : bytes.getLast? = some 0) :
    toNatLE (Target.shiftUp bytes) = 256 * toNatLE bytes + toNatLE bytes % 256 := by
  cases bytes with
  | nil => simp at size
  | cons low rest =>
    have byte := low.toNat_lt
    obtain rfl | ⟨middle,high,rfl⟩ := List.eq_nil_or_concat' rest
    · simp at size
    · rw [← List.cons_append,List.getLast?_concat,Option.some.injEq] at clear
      subst clear
      -- The byte that is dropped is zero, so the bytes that are left are still the whole number.
      simp only [Target.shiftUp,List.dropLast_concat,toNatLE,toNatLE_append,UInt8.toNat_zero,
        Nat.mul_zero,Nat.add_zero]
      omega

namespace Target

theorem toNat_lt_iff (target : Target) :
    target.toNat < 2 ^ 248 ↔ target.littleEndian.bytes.getLast? = some 0 :=
  Bytes.toNatLE_lt_iff 31 target.littleEndian.bytes target.littleEndian.length_bytes

theorem toNat_max : max.toNat = 2 ^ 256 - 1 := by
  decide

theorem toNat_loosen (target : Target) : target.loosen.toNat =
    if target.toNat < 2 ^ 248 then 256 * target.toNat + target.toNat % 256 else 2 ^ 256 - 1 := by
  have size := target.littleEndian.length_bytes
  simp only [toNat_lt_iff,loosen]
  split
  next clear => exact Bytes.toNatLE_shiftUp _ (by omega) clear
  next set => exact toNat_max

theorem le_loosen (target : Target) : target.toNat ≤ target.loosen.toNat := by
  have fits := target.toNat_lt
  rw [toNat_loosen]
  split <;> omega

theorem loosen_mono (lower higher : Target) (le : lower.toNat ≤ higher.toNat) :
    lower.loosen.toNat ≤ higher.loosen.toNat := by
  rw [toNat_loosen,toNat_loosen]
  split
  next clear => split <;> omega
  next set => rw [if_neg (by omega)]

theorem meets_loosen (target : Target) (hash : Bytes32) (met : target.meets hash = true) :
    target.loosen.meets hash = true := by
  rw [meets_iff] at met ⊢
  exact Nat.le_trans met target.le_loosen

theorem ofBytes_eq_ok (bytes : Bytes) (target : Target) :
    ofBytes bytes = .ok target ↔ bytes = target.littleEndian.bytes := by
  rw [← Bytes32.ofBytes?_eq_some,ofBytes]
  cases Bytes32.ofBytes? bytes with
  | none => simp
  | some word =>
    obtain ⟨found⟩ := target
    simp

theorem spellsWord_hexLE (target : Target) : Hex.SpellsWord target.hexLE := by
  rw [← Hex.exists_decode_word]
  refine ⟨target.littleEndian.reverse,?_⟩
  rw [Bytes32.reverse,List.reverse_reverse]
  exact Hex.decode_encode target.littleEndian.bytes

structure Announces (target : Target) (threshold : String) : Prop where
  digits : Hex.SpellsWord threshold
  decoded : ∃ bytes, Hex.decode threshold = .ok bytes ∧ ofBytes bytes = .ok target.loosen

theorem announces_hexLE (target : Target) : target.Announces target.loosen.hexLE where
  digits := target.loosen.spellsWord_hexLE
  decoded := ⟨_,Hex.decode_encode _,(ofBytes_eq_ok _ _).mpr rfl⟩

/-- The threshold as a number, and as what is derived from the text of a target. -/
theorem loosens_numerically :
    (∀ target : Target, target.loosen.toNat =
      if target.toNat < 2 ^ 248 then 256 * target.toNat + target.toNat % 256 else 2 ^ 256 - 1) ∧
    (∀ target : Target, target.toNat ≤ target.loosen.toNat) ∧
    (∀ lower higher : Target, lower.toNat ≤ higher.toNat →
      lower.loosen.toNat ≤ higher.loosen.toNat) ∧
    (∀ (target : Target) (hash : Bytes32), target.meets hash = true →
      target.loosen.meets hash = true) ∧
    ∀ text, Hex.SpellsWord text → ∃ target threshold,
      withThreshold text = .ok (target, threshold) ∧
      target.toNat = Text.accumulate 16 0 text.toList ∧ target.Announces threshold := by
  refine ⟨toNat_loosen,le_loosen,loosen_mono,meets_loosen,?_⟩
  intro text spelled
  obtain ⟨target,read⟩ := (exists_parse text).mpr spelled
  exact ⟨target,target.loosen.hexLE,(withThreshold_eq_ok _ _ _).mpr ⟨read,rfl⟩,
    (accumulate_parse text target read).symm,target.announces_hexLE⟩

namespace Sample

/-- The lowest target that has the highest threshold for want of room. -/
def saturating : Target := ⟨List.replicate 31 0 ++ [1],by decide⟩

end Sample

theorem loosens_numerically_numeral : ∃ target threshold,
    withThreshold Sample.numeral = .ok (target, threshold) ∧ target.Announces threshold ∧
    target.loosen.toNat = 256 * 4001 + 161 ∧
    target.toNat ≤ Sample.saturating.toNat ∧
    target.loosen.toNat ≤ Sample.saturating.loosen.toNat ∧
    target.meets Sample.lesser = true ∧ target.loosen.meets Sample.lesser = true := by
  obtain ⟨whole,_,mono,shares,derived⟩ := loosens_numerically
  have spelled : Hex.SpellsWord Sample.numeral := by
    obtain ⟨target,read,_⟩ := exists_ok (parse Sample.numeral) toNat 4001 (by decide +kernel)
    exact (exists_parse Sample.numeral).mp ⟨target,read⟩
  obtain ⟨target,threshold,made,number,announced⟩ := derived Sample.numeral spelled
  have value : target.toNat = 4001 := number.trans (by decide +kernel)
  have below : target.toNat ≤ Sample.saturating.toNat := by
    rw [value]
    decide
  have met : target.meets Sample.lesser = true := by
    rw [meets_iff,value]
    decide
  refine ⟨target,threshold,made,announced,?_,below,mono _ _ below,met,shares _ _ met⟩
  rw [whole,value]
  decide

end Target

end SoloMining
