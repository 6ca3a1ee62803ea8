import SoloMining.Hash
import SoloMining.Target
import SoloMining.Proofs.Fallible
import SoloMining.Proofs.Hex

/-! Hashes and targets as nodes write them. The text of a target is its number in hexadecimal, and a
hash meets a target if its own number is no greater. -/
namespace SoloMining

@[simp] theorem Bytes32.reverse_reverse (word : Bytes32) : word.reverse.reverse = word := by
  cases word
  simp [Bytes32.reverse]

/-- A written hash is the text of its bytes with the last one first. -/
theorem hashOfDisplay_eq_ok (text : String) (word : Bytes32) :
    hashOfDisplay text = .ok word ↔ Hex.decode text = .ok word.bytes.reverse := by
  have spelled : Hex.decode text = .ok word.bytes.reverse ↔
      Hex.decode32 text = .ok word.reverse := by
    rw [Hex.decode_iff,Hex.decode32_iff,Bytes32.reverse]
  rw [spelled,hashOfDisplay]
  cases Hex.decode32 text with
  | error fault => simp
  | ok found =>
    simp only [Except.ok.injEq]
    constructor
    · rintro rfl
      simp
    · rintro rfl
      simp

theorem decodeField_eq_ok (field text : String) (bytes : Bytes) :
    decodeField field text = .ok bytes ↔ Hex.decode text = .ok bytes := by
  rw [decodeField]
  cases Hex.decode text with
  | error fault => simp
  | ok found => simp

namespace Target

theorem parse_spells (text : String) (target : Target) (read : parse text = .ok target) :
    Hex.Spells text.toList target.littleEndian.bytes.reverse := by
  simp only [parse] at read
  split at read
  next =>
    cases found : Hex.decode32 text with
    | error fault => simp [found] at read
    | ok word =>
      simp only [found,Except.ok.injEq] at read
      subst read
      have spelled := (Hex.decode32_iff text word).mp found
      simpa [Bytes32.reverse] using spelled
  next => contradiction

/-- Targets and hashes are read from the same texts, and in the same order. -/
theorem parse_eq_ok (text : String) (target : Target) :
    parse text = .ok target ↔ Hex.decode text = .ok target.littleEndian.bytes.reverse := by
  rw [Hex.decode_iff]
  constructor
  · exact parse_spells text target
  · intro spelled
    have found := (Hex.decode32_iff text target.littleEndian.reverse).mpr spelled
    have size : (Hex.utf8 text).length = 64 := by
      rw [Hex.utf8_ascii text spelled.ascii,List.length_map,spelled.length,List.length_reverse,
        target.littleEndian.length_bytes]
    simp only [parse,size,if_true,found,Bytes32.reverse_reverse]

theorem exists_parse (text : String) :
    (∃ target, parse text = .ok target) ↔ Hex.SpellsWord text := by
  rw [← Hex.exists_decode_word]
  constructor
  · rintro ⟨target,read⟩
    exact ⟨target.littleEndian,(parse_eq_ok text target).mp read⟩
  · rintro ⟨word,read⟩
    exact ⟨⟨word⟩,(parse_eq_ok text ⟨word⟩).mpr read⟩

theorem toNat_lt (target : Target) : target.toNat < 2 ^ 256 := by
  have bound := Bytes.toNatLE_lt target.littleEndian.bytes
  rw [target.littleEndian.length_bytes] at bound
  exact bound

/-- The text of a target is its number. -/
theorem readDigits_parse (text : String) (target : Target) (read : parse text = .ok target) :
    Text.readDigits 16 (2 ^ 256) 0 text.toList = .ok target.toNat := by
  have spelled := parse_spells text target read
  have number := spelled.readDigits (2 ^ 256) 0
  rw [List.reverse_reverse,Nat.zero_mul,Nat.zero_add] at number
  exact number target.toNat_lt

theorem accumulate_parse (text : String) (target : Target) (read : parse text = .ok target) :
    Text.accumulate 16 0 text.toList = target.toNat := by
  have number := readDigits_parse text target read
  exact ((Text.readDigits_eq_ok 16 _ 0 _ _ (by decide) (by decide)).mp number).2.1

/-- The byte order of the comparison agrees with the numbers. -/
theorem meets_iff (target : Target) (hash : Bytes32) :
    target.meets hash = true ↔ hash.toNat ≤ target.toNat := by
  rw [meets,Bytes32.compare_eq,bne_iff_ne,ne_eq,compare_gt_iff_gt]
  exact Nat.not_lt

theorem withThreshold_eq_ok (text threshold : String) (target : Target) :
    withThreshold text = .ok (target,threshold) ↔
      parse text = .ok target ∧ target.loosen.hexLE = threshold := by
  simp only [withThreshold,bind_eq_ok,pure_eq_ok,Prod.mk.injEq]
  constructor
  · rintro ⟨found,read,rfl,loose⟩
    exact ⟨read,loose⟩
  · rintro ⟨read,loose⟩
    exact ⟨target,read,rfl,loose⟩

/-- Hashes are ordered as their numbers are, and only equal ones are level; the text of a target, which
is 64 digits, is met by the hashes whose number is no greater than its own. -/
theorem meets_numerically :
    (∀ first second : Bytes32, first.compare second = compare first.toNat second.toNat) ∧
    Std.TransCmp Bytes32.compare ∧ Std.LawfulEqCmp Bytes32.compare ∧
    (∀ text, (∃ target, parse text = .ok target) ↔ Hex.SpellsWord text) ∧
    ∀ text target, parse text = .ok target → ∀ hash : Bytes32,
      target.meets hash = true ↔ hash.toNat ≤ Text.accumulate 16 0 text.toList := by
  refine ⟨Bytes32.compare_eq,inferInstance,inferInstance,exists_parse,?_⟩
  intro text target read hash
  rw [meets_iff,accumulate_parse text target read]

namespace Sample

def numeral : String := "0000000000000000000000000000000000000000000000000000000000000Fa1"

/-- Its first byte is higher than that of the numeral, but its second one is lower. -/
def lesser : Bytes32 := ⟨0xFF :: 0x0E :: List.replicate 30 0,by decide⟩

def greater : Bytes32 := ⟨0xA2 :: 0x0F :: List.replicate 30 0,by decide⟩

end Sample

theorem meets_numerically_numeral : ∃ target, parse Sample.numeral = .ok target ∧
    Text.accumulate 16 0 Sample.numeral.toList = 4001 ∧ Sample.lesser.toNat = 3839 ∧
    target.meets Sample.lesser = true ∧ Sample.greater.toNat = 4002 ∧
    ¬ target.meets Sample.greater = true := by
  obtain ⟨target,read,number⟩ := exists_ok (parse Sample.numeral) toNat 4001 (by decide +kernel)
  have stated := accumulate_parse _ target read
  have met := meets_numerically.2.2.2.2 Sample.numeral target read
  rw [stated,number] at met
  have lesser : Sample.lesser.toNat = 3839 := by decide
  have greater : Sample.greater.toNat = 4002 := by decide
  refine ⟨target,read,stated.trans number,lesser,(met Sample.lesser).mpr ?_,greater,
    mt (met Sample.greater).mp ?_⟩
  · rw [lesser]
    decide
  · rw [greater]
    decide

end Target

end SoloMining
