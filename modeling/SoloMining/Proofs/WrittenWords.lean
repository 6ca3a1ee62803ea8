import SoloMining.Proofs.Threshold

/-! Hashes and targets as text. Both readers take the same texts, 64 digits in either case, for the same
32 bytes, and refuse every other one; what is written, with the highest byte first or with the lowest,
reads back. -/
namespace SoloMining.Target

theorem parse_ok_iff_hashOfDisplay (text : String) (word : Bytes32) :
    parse text = .ok ⟨word⟩ ↔ hashOfDisplay text = .ok word :=
  (parse_eq_ok text ⟨word⟩).trans (hashOfDisplay_eq_ok text word).symm

theorem exists_hashOfDisplay (text : String) :
    (∃ word, hashOfDisplay text = .ok word) ↔ Hex.SpellsWord text := by
  simp only [hashOfDisplay_eq_ok,Hex.exists_decode_word]

/-- The length is right but some character takes several bytes: both readers tell the same fault. -/
theorem unreadable (text : String) (size : (Hex.utf8 text).length = 64)
    (foreign : ∃ c ∈ text.toList, 127 < c.val) : ∃ fault,
      parse text = .error (.target (.badHex fault)) ∧
        hashOfDisplay text = .error (.template (.badHash text fault)) := by
  obtain ⟨c,member,beyond⟩ := foreign
  cases found : Hex.decode32 text with
  | error fault => exact ⟨fault,by simp [parse,size,found],by simp [hashOfDisplay,found]⟩
  | ok word =>
    have ascii := Hex.Spells.ascii _ _ ((Hex.decode32_iff text word).mp found) c member
    exact absurd beyond (UInt32.not_lt.mpr ascii)

theorem hexBE_parse (text : String) (target : Target) (read : parse text = .ok target) :
    target.hexBE = text.toLower :=
  (parse_spells text target read).encode_eq

theorem parse_hexBE (target : Target) : parse target.hexBE = .ok target := by
  rw [parse_eq_ok]
  exact Hex.decode_encode _

theorem mirrors_hexBE (target : Target) : Hex.Mirrors target.hexBE.toList target.hexLE.toList := by
  rw [hexBE,hexLE,Hex.encode,Hex.encode,String.toList_ofList,String.toList_ofList]
  exact Hex.mirrors_encodeChars target.littleEndian.bytes

/-- Exactly the texts of 64 hexadecimal digits are read, as targets and as hashes, and as the same bytes.
A target is written as its text in lower case; both of its written forms read back, and each is the other
turned around byte by byte. -/
theorem texts_of_words :
    (∀ text, (∃ target, parse text = .ok target) ↔ Hex.SpellsWord text) ∧
    (∀ text, (∃ word, hashOfDisplay text = .ok word) ↔ Hex.SpellsWord text) ∧
    (∀ text word, parse text = .ok ⟨word⟩ ↔ hashOfDisplay text = .ok word) ∧
    (∀ text, (Hex.utf8 text).length = 64 → (∃ c ∈ text.toList, 127 < c.val) → ∃ fault,
      parse text = .error (.target (.badHex fault)) ∧
        hashOfDisplay text = .error (.template (.badHash text fault))) ∧
    (∀ text target, parse text = .ok target → target.hexBE = text.toLower) ∧
    ∀ target : Target, parse target.hexBE = .ok target ∧
      (∃ bytes, Hex.decode target.hexLE = .ok bytes ∧ ofBytes bytes = .ok target) ∧
      Hex.Mirrors target.hexBE.toList target.hexLE.toList := by
  refine ⟨exists_parse,exists_hashOfDisplay,parse_ok_iff_hashOfDisplay,unreadable,hexBE_parse,?_⟩
  intro target
  have decoded : Hex.decode target.hexLE = .ok target.littleEndian.bytes := Hex.decode_encode _
  exact ⟨parse_hexBE target,⟨_,decoded,(ofBytes_eq_ok _ _).mpr rfl⟩,mirrors_hexBE target⟩

/-- Digits in both cases, and 62 digits in front of a letter that takes two bytes. -/
theorem texts_of_words_cases : ∃ target,
    parse Sample.numeral = .ok target ∧
    hashOfDisplay Sample.numeral = .ok target.littleEndian ∧
    target.hexBE = "0000000000000000000000000000000000000000000000000000000000000fa1" ∧
    ∃ fault, parse "00000000000000000000000000000000000000000000000000000000000000é" =
      .error (.target (.badHex fault)) := by
  obtain ⟨target,read,_⟩ := exists_ok (parse Sample.numeral) toNat 4001 (by decide +kernel)
  obtain ⟨_,_,agree,refused,lower,_⟩ := texts_of_words
  obtain ⟨fault,faulty,_⟩ := refused
    "00000000000000000000000000000000000000000000000000000000000000é" (by decide +kernel)
    ⟨'é',by decide +kernel,by decide⟩
  refine ⟨target,read,(agree _ _).mp read,?_,fault,faulty⟩
  rw [lower _ target read]
  decide +kernel

end SoloMining.Target
