import SoloMining.Hex
import SoloMining.Proofs.Bytes
import SoloMining.Proofs.Fallible
import SoloMining.Proofs.Text.Radix
import Mathlib.Data.List.Induction

/-! What hexadecimal text says. A text reads as bytes exactly if it spells them digit pair by digit
pair; so written bytes read back, what is read is written again in lower case, and read digit by digit
the text is the number whose most significant byte comes first. -/
namespace SoloMining.Hex

inductive Spells : List Char → Bytes → Prop
  | nil : Spells [] []
  | pair (high low : Char) (h l : Nat) (text : List Char) (bytes : Bytes)
      (first : Text.digitValue? 16 high = some h) (second : Text.digitValue? 16 low = some l)
      (rest : Spells text bytes) :
      Spells (high :: low :: text) (UInt8.ofNat (16 * h + l) :: bytes)

private theorem toList_loop (array : ByteArray) (i : Nat) (taken : Bytes) :
    ByteArray.toList.loop array i taken = taken.reverse ++ array.data.toList.drop i := by
  fun_induction ByteArray.toList.loop array i taken with
  | case1 i taken more ih =>
    have inside : i < array.data.toList.length := by simpa using more
    rw [ih,List.drop_eq_getElem_cons inside]
    simp [ByteArray.get!,more]
  | case2 i taken done =>
    rw [List.drop_eq_nil_of_le (by simpa using Nat.le_of_not_lt done)]
    simp

theorem utf8_eq (s : String) : utf8 s = s.toList.flatMap String.utf8EncodeChar := by
  have encoded : s.toByteArray = s.toList.utf8Encode := String.utf8Encode_toList.symm
  simp only [utf8,String.toUTF8,encoded,ByteArray.toList,toList_loop]
  simp [List.utf8Encode,List.data_toByteArray]

theorem fromUTF8?_utf8 (s : String) : String.fromUTF8? ⟨(utf8 s).toArray⟩ = some s := by
  have same : ByteArray.mk (utf8 s).toArray = s.toByteArray := by
    rw [utf8_eq,← s.utf8Encode_toList]
    exact ByteArray.ext (by rw [List.utf8Encode,List.data_toByteArray])
  rw [same,String.fromUTF8?,dif_pos s.isValidUTF8]
  rfl

theorem utf8_ascii (s : String) (ascii : ∀ c ∈ s.toList, c.val ≤ 127) :
    utf8 s = s.toList.map (·.val.toUInt8) := by
  rw [utf8_eq]
  generalize s.toList = chars at ascii
  induction chars with
  | nil => rfl
  | cons c rest ih =>
    have one : c.utf8Size = 1 := Char.utf8Size_eq_one_iff.mpr (ascii c (by simp))
    rw [List.flatMap_cons,String.utf8EncodeChar_eq_singleton one,
      ih fun other member => ascii other (List.mem_cons_of_mem c member)]
    rfl

theorem ascii_of_utf8 (s : String) (low : ∀ b ∈ utf8 s, b < 128) :
    ∀ c ∈ s.toList, c.val ≤ 127 := by
  intro c member
  rw [utf8_eq] at low
  by_contra high
  -- A character of several bytes ends in one from 128 on.
  have last : UInt8.ofNat (c.val.toNat % 64 + 128) ∈ String.utf8EncodeChar c := by
    have large : ¬ c.val.toNat ≤ 127 := high
    simp only [String.utf8EncodeChar,large,if_false]
    split_ifs <;> simp
  have byte := low _ (List.mem_flatMap.mpr ⟨c,member,last⟩)
  rw [UInt8.lt_iff_toNat_lt,UInt8.toNat_ofNat'] at byte
  change (c.val.toNat % 64 + 128) % 256 < 128 at byte
  omega

theorem low_of_digitValue (b : UInt8) (valid : (digitValue? b).isSome) : b < 128 := by
  unfold digitValue? at valid
  simp only [UInt8.le_iff_toNat_le] at valid
  rw [UInt8.lt_iff_toNat_lt]
  change b.toNat < 128
  split_ifs at valid with decimal lower upper
  · exact Nat.lt_of_le_of_lt decimal.2 (by decide)
  · exact Nat.lt_of_le_of_lt lower.2 (by decide)
  · exact Nat.lt_of_le_of_lt upper.2 (by decide)
  · simp at valid

theorem digitValue_eq (c : Char) (ascii : c.val ≤ 127) :
    digitValue? c.val.toUInt8 = Text.digitValue? 16 c := by
  have table : ∀ n < 128,
      digitValue? (Char.ofNat n).val.toUInt8 = Text.digitValue? 16 (Char.ofNat n) := by decide
  have small : c.val.toNat ≤ 127 := ascii
  have found := table c.toNat (Nat.lt_succ_of_le small)
  rwa [Char.ofNat_toNat] at found

theorem decodePairs_low (position : Nat) (text bytes : Bytes)
    (read : decodePairs position text = .ok bytes) : ∀ b ∈ text, b < 128 := by
  fun_induction decodePairs position text generalizing bytes with
  | case1 => simp
  | case2 => contradiction
  | case3 => contradiction
  | case4 => contradiction
  | case5 position high low rest h l second first ih =>
    simp only [bind_eq_ok,pure_eq_ok] at read
    obtain ⟨more,tail,_⟩ := read
    simp only [List.forall_mem_cons]
    exact ⟨low_of_digitValue high (by simp [first]),low_of_digitValue low (by simp [second]),
      ih more tail⟩

theorem digit_bounds (c : Char) (d : Nat) (valid : Text.digitValue? 16 c = some d) :
    c.val ≤ 127 ∧ d < 16 := by
  simp only [Text.digitValue?,Option.ite_none_right_eq_some,Option.some.injEq,Char.le_def] at valid
  obtain ⟨small,rfl⟩ := valid
  refine ⟨?_,small⟩
  split_ifs at small with decimal lower upper
  · exact UInt32.le_trans decimal.2 (by decide)
  · exact UInt32.le_trans lower.2 (by decide)
  · exact UInt32.le_trans upper.2 (by decide)
  · simp at small

private theorem toNat_pair (h l : Nat) (high : h < 16) (low : l < 16) :
    (UInt8.ofNat (16 * h + l)).toNat = 16 * h + l := by
  apply UInt8.toNat_ofNat_of_lt
  change 16 * h + l < 256
  omega

theorem Spells.ascii (chars : List Char) (bytes : Bytes) (spells : Spells chars bytes) :
    ∀ c ∈ chars, c.val ≤ 127 := by
  induction spells with
  | nil => simp
  | pair high low h l text bytes first second rest ih =>
    simp only [List.forall_mem_cons]
    exact ⟨(digit_bounds high h first).1,(digit_bounds low l second).1,ih⟩

theorem Spells.length (chars : List Char) (bytes : Bytes) (spells : Spells chars bytes) :
    chars.length = 2 * bytes.length := by
  induction spells with
  | nil => rfl
  | pair high low h l text bytes first second rest ih =>
    simp only [List.length_cons,ih]
    omega

theorem exists_spells (chars : List Char) : (∃ bytes, Spells chars bytes) ↔
    chars.length % 2 = 0 ∧ ∀ c ∈ chars, Text.IsHexDigit c := by
  constructor
  · rintro ⟨bytes,spells⟩
    refine ⟨by rw [spells.length]; omega,?_⟩
    induction spells with
    | nil => simp
    | pair high low h l text bytes first second rest ih =>
      simp only [List.forall_mem_cons,Text.isHexDigit_iff,first,second,Option.isSome_some,true_and]
      simpa only [Text.isHexDigit_iff] using ih
  · rintro ⟨even,valid⟩
    induction chars using List.twoStepInduction with
    | nil => exact ⟨[],.nil⟩
    | singleton c => simp at even
    | cons_cons high low rest ih =>
      simp only [List.forall_mem_cons,Text.isHexDigit_iff,Option.isSome_iff_exists] at valid ih
      obtain ⟨⟨h,first⟩,⟨l,second⟩,others⟩ := valid
      simp only [List.length_cons] at even
      obtain ⟨bytes,spells⟩ := ih (by omega) others
      exact ⟨_,.pair high low h l rest bytes first second spells⟩

theorem decodePairs_iff (position : Nat) (chars : List Char) (bytes : Bytes)
    (ascii : ∀ c ∈ chars, c.val ≤ 127) :
    decodePairs position (chars.map (·.val.toUInt8)) = .ok bytes ↔ Spells chars bytes := by
  constructor
  · intro read
    induction chars using List.twoStepInduction generalizing position bytes with
    | nil =>
      cases Except.ok.inj read
      exact .nil
    | singleton c => contradiction
    | cons_cons high low rest ih =>
      simp only [List.forall_mem_cons] at ascii
      obtain ⟨highAscii,lowAscii,restAscii⟩ := ascii
      simp only [List.map_cons,decodePairs,digitValue_eq high highAscii,digitValue_eq low lowAscii]
        at read
      split at read
      next => contradiction
      next => contradiction
      next h l first second =>
        simp only [bind_eq_ok,pure_eq_ok] at read
        obtain ⟨more,tail,rfl⟩ := read
        exact .pair high low h l rest more first second (ih (position + 2) more restAscii tail)
  · intro spells
    induction spells generalizing position with
    | nil => rfl
    | pair high low h l text bytes first second rest ih =>
      simp only [List.forall_mem_cons] at ascii
      obtain ⟨highAscii,lowAscii,restAscii⟩ := ascii
      simp only [List.map_cons,decodePairs,digitValue_eq high highAscii,digitValue_eq low lowAscii,
        first,second,ih (position + 2) restAscii]
      rfl

/-- A text reads exactly as the bytes that it spells. -/
theorem decode_iff (s : String) (bytes : Bytes) :
    decode s = .ok bytes ↔ Spells s.toList bytes := by
  rw [decode,decodeBytes]
  constructor
  · intro read
    split at read
    next => contradiction
    next =>
      have ascii := ascii_of_utf8 s (decodePairs_low 0 _ bytes read)
      rw [utf8_ascii s ascii] at read
      exact (decodePairs_iff 0 s.toList bytes ascii).mp read
  · intro spells
    have ascii := spells.ascii
    have even : ¬ (utf8 s).length % 2 = 1 := by
      rw [utf8_ascii s ascii,List.length_map,spells.length]
      omega
    rw [if_neg even,utf8_ascii s ascii]
    exact (decodePairs_iff 0 s.toList bytes ascii).mpr spells

/-- A text reads as a word exactly if it spells the 32 bytes of that word. -/
theorem decode32_iff (s : String) (word : Bytes32) :
    decode32 s = .ok word ↔ Spells s.toList word.bytes := by
  constructor
  · intro read
    simp only [decode32] at read
    split at read
    next => contradiction
    next even =>
      split at read
      next =>
        obtain ⟨bytes,pairs,sized⟩ := (bind_eq_ok _ _ _).mp read
        split at sized
        next whole found =>
          cases Except.ok.inj sized
          rw [← (Bytes32.ofBytes?_eq_some bytes word).mp found,← decode_iff,decode,decodeBytes,
            if_neg even]
          exact pairs
        next => contradiction
      next => contradiction
  · intro spells
    have text := utf8_ascii s spells.ascii
    have size : (utf8 s).length = 64 := by rw [text,List.length_map,spells.length,word.length_bytes]
    have pairs := (decodePairs_iff 0 s.toList word.bytes spells.ascii).mpr spells
    rw [← text] at pairs
    have whole := (Bytes32.ofBytes?_eq_some word.bytes word).mpr rfl
    simp [decode32,size,pairs,whole,bind,Except.bind]

def SpellsBytes (text : String) : Prop :=
  text.length % 2 = 0 ∧ ∀ c ∈ text.toList, Text.IsHexDigit c

def SpellsWord (text : String) : Prop :=
  text.length = 64 ∧ ∀ c ∈ text.toList, Text.IsHexDigit c

theorem exists_decode (text : String) :
    (∃ bytes, decode text = .ok bytes) ↔ SpellsBytes text := by
  simp only [decode_iff,exists_spells,SpellsBytes,String.length_toList]

theorem exists_decode_word (text : String) :
    (∃ word : Bytes32, decode text = .ok word.bytes.reverse) ↔ SpellsWord text := by
  constructor
  · rintro ⟨word,read⟩
    have spelled := (decode_iff text _).mp read
    obtain ⟨_,valid⟩ := (exists_decode text).mp ⟨_,read⟩
    refine ⟨?_,valid⟩
    rw [← String.length_toList,spelled.length,List.length_reverse,word.length_bytes]
  · rintro ⟨size,valid⟩
    obtain ⟨bytes,read⟩ := (exists_decode text).mpr ⟨by rw [size],valid⟩
    have spelled := ((decode_iff text bytes).mp read).length
    rw [String.length_toList,size] at spelled
    refine ⟨⟨bytes.reverse,by rw [List.length_reverse]; omega⟩,?_⟩
    rw [List.reverse_reverse]
    exact read

private theorem digitValue_digit (n : Nat) (small : n < 16) :
    Text.digitValue? 16 (digit n) = some n := by
  interval_cases n <;> decide

theorem spells_encodeChars (bytes : Bytes) : Spells (encodeChars bytes) bytes := by
  induction bytes with
  | nil => exact .nil
  | cons b rest ih =>
    have byte := b.toNat_lt
    have whole : UInt8.ofNat (16 * (b.toNat / 16) + b.toNat % 16) = b := by
      rw [Nat.div_add_mod]
      exact UInt8.ofNat_toNat
    have spelled := Spells.pair _ _ _ _ _ _ (digitValue_digit (b.toNat / 16) (by omega))
      (digitValue_digit (b.toNat % 16) (by omega)) ih
    rwa [whole] at spelled

theorem decode_encode (bytes : Bytes) : decode (encode bytes) = .ok bytes := by
  rw [decode_iff,encode,String.toList_ofList]
  exact spells_encodeChars bytes

private theorem digit_eq_toLower (c : Char) (d : Nat) (valid : Text.digitValue? 16 c = some d) :
    digit d = c.toLower := by
  have table : ∀ n < 128, Text.digitValue? 16 (Char.ofNat n) = none ∨
      (Text.digitValue? 16 (Char.ofNat n)).map digit = some (Char.ofNat n).toLower := by decide
  have small : c.val.toNat ≤ 127 := (digit_bounds c d valid).1
  have found := table c.toNat (Nat.lt_succ_of_le small)
  rw [Char.ofNat_toNat,valid] at found
  simpa using found

theorem Spells.encodeChars_eq (chars : List Char) (bytes : Bytes) (spells : Spells chars bytes) :
    encodeChars bytes = chars.map Char.toLower := by
  induction spells with
  | nil => rfl
  | pair high low h l text bytes first second rest ih =>
    obtain ⟨_,hSmall⟩ := digit_bounds high h first
    obtain ⟨_,lSmall⟩ := digit_bounds low l second
    have upper : (16 * h + l) / 16 = h := by omega
    have lower : (16 * h + l) % 16 = l := by omega
    simp only [encodeChars,toNat_pair h l hSmall lSmall,upper,lower,
      digit_eq_toLower high h first,digit_eq_toLower low l second,ih,List.map_cons]

/-- What is written for the bytes of a text is that text in lower case. -/
theorem Spells.encode_eq (text : String) (bytes : Bytes) (spells : Spells text.toList bytes) :
    encode bytes = text.toLower := by
  have lower : text.toLower = text.map Char.toLower := rfl
  apply String.toList_injective
  rw [encode,String.toList_ofList,spells.encodeChars_eq,lower,String.toList_map]

def Mirrors (first second : List Char) : Prop :=
  ∃ pairs : List (Char × Char), first = pairs.flatMap (fun pair => [pair.1, pair.2]) ∧
    second = pairs.reverse.flatMap fun pair => [pair.1, pair.2]

theorem encodeChars_eq_flatMap (bytes : Bytes) : encodeChars bytes =
    (bytes.map fun b => (digit (b.toNat / 16),digit (b.toNat % 16))).flatMap
      fun pair => [pair.1,pair.2] := by
  induction bytes with
  | nil => rfl
  | cons b rest ih =>
    rw [encodeChars,ih]
    rfl

theorem mirrors_encodeChars (bytes : Bytes) :
    Mirrors (encodeChars bytes.reverse) (encodeChars bytes) := by
  refine ⟨_,encodeChars_eq_flatMap bytes.reverse,?_⟩
  rw [← List.map_reverse,List.reverse_reverse]
  exact encodeChars_eq_flatMap bytes

/-- Digit by digit, a text is the number of its bytes, the first of which weighs most. -/
theorem Spells.readDigits (bound value : Nat) (chars : List Char) (bytes : Bytes)
    (spells : Spells chars bytes)
    (fits : value * 256 ^ bytes.length + Bytes.toNatLE bytes.reverse < bound) :
    Text.readDigits 16 bound value chars =
      .ok (value * 256 ^ bytes.length + Bytes.toNatLE bytes.reverse) := by
  induction spells generalizing value with
  | nil => simp [Text.readDigits,Bytes.toNatLE]
  | pair high low h l text bytes first second rest ih =>
    obtain ⟨_,hSmall⟩ := digit_bounds high h first
    obtain ⟨_,lSmall⟩ := digit_bounds low l second
    have byte := toNat_pair h l hSmall lSmall
    have total : value * 256 ^ (UInt8.ofNat (16 * h + l) :: bytes).length +
        Bytes.toNatLE (UInt8.ofNat (16 * h + l) :: bytes).reverse =
        ((value * 16 + h) * 16 + l) * 256 ^ bytes.length + Bytes.toNatLE bytes.reverse := by
      rw [List.reverse_cons,Bytes.toNatLE_append,List.length_reverse,List.length_cons]
      simp only [Bytes.toNatLE,byte]
      ring
    -- The prefixes stay below the bound because the whole text does.
    rw [total] at fits ⊢
    have weight : 0 < 256 ^ bytes.length := Nat.pow_pos (by decide)
    have reached : (value * 16 + h) * 16 + l < bound := by
      have grown := Nat.le_mul_of_pos_right ((value * 16 + h) * 16 + l) weight
      omega
    have earlier : value * 16 + h < bound := by omega
    simp only [Text.readDigits,first,second,earlier,reached,if_true]
    exact ih _ fits

end SoloMining.Hex
