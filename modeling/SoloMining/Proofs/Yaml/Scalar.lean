import SoloMining.Proofs.Text.Radix
import SoloMining.Yaml.Printer
import SoloMining.Yaml.Scalar

/-! Written scalars read back, each in its style: plain words, texts in single quotes, and texts in
double quotes with escapes. -/
namespace SoloMining.Yaml

private theorem hidden_of_range (c : Char) (first last : Nat)
    (listed : (first,last) ∈ Text.hiddenRanges) (high : 0x80 ≤ first) (above : first ≤ c.toNat)
    (below : c.toNat ≤ last) : Text.isPrintable c = false := by
  have hidden : Text.inRanges Text.hiddenRanges c.toNat = true :=
    List.any_eq_true.mpr ⟨_,listed,by simp [above,below]⟩
  have wide : ¬ c.toNat < 0x80 := by omega
  simp [Text.isPrintable,wide,hidden]

/-- No printable character is taken for a control, a line break or a mark at the start of a text. -/
theorem toNat_of_isPrintable (c : Char) (shown : Text.isPrintable c = true) :
    0x20 ≤ c.toNat ∧ (c.toNat < 0x7F ∨ 0xA0 < c.toNat) ∧
      c.toNat ∉ [0x2028,0x2029,0xFEFF,0xFFFE,0xFFFF] := by
  have unhidden (first last : Nat) (listed : (first,last) ∈ Text.hiddenRanges)
      (high : 0x80 ≤ first) : ¬ (first ≤ c.toNat ∧ c.toNat ≤ last) := by
    rintro ⟨above,below⟩
    rw [hidden_of_range c first last listed high above below] at shown
    cases shown
  have controls := unhidden 0x80 0xA0 (by decide +kernel) (by decide)
  have breaks := unhidden 0x2028 0x202F (by decide +kernel) (by decide)
  have mark := unhidden 0xFEFD 0xFF00 (by decide +kernel) (by decide)
  have last := unhidden 0xFFFE 0xFFFF (by decide +kernel) (by decide)
  have low : c.toNat < 0x80 → 0x20 ≤ c.toNat ∧ c.toNat ≠ 0x7F := by
    intro ascii
    simpa [Text.isPrintable,ascii] using shown
  simp only [List.mem_cons,List.not_mem_nil,or_false]
  omega

def IsPlainCode (n : Nat) : Prop :=
  (0x61 ≤ n ∧ n ≤ 0x7A) ∨ (0x41 ≤ n ∧ n ≤ 0x5A) ∨ (0x2D ≤ n ∧ n ≤ 0x39) ∨ n = 0x5F

instance (n : Nat) : Decidable (IsPlainCode n) :=
  inferInstanceAs (Decidable ((0x61 ≤ n ∧ n ≤ 0x7A) ∨ (0x41 ≤ n ∧ n ≤ 0x5A) ∨
    (0x2D ≤ n ∧ n ≤ 0x39) ∨ n = 0x5F))

theorem isPlainChar_iff (c : Char) :
    isPlainChar c = true ↔ c.isAlphanum = true ∨ c ∈ ['.','_','/','-'] := by
  simp [isPlainChar]

theorem toNat_of_isPlainChar (c : Char) (plain : isPlainChar c = true) : IsPlainCode c.toNat := by
  obtain alphanumeric | other := (isPlainChar_iff c).mp plain
  · have code : c.toNat = c.val.toNat := rfl
    have ranges : c.isAlphanum = (decide (0x41 ≤ c.val ∧ c.val ≤ 0x5A) ||
        (decide (0x61 ≤ c.val) && decide (c.val ≤ 0x7A)) ||
        (decide (0x30 ≤ c.val) && decide (c.val ≤ 0x39))) := rfl
    simp [ranges,UInt32.le_iff_toNat_le] at alphanumeric
    unfold IsPlainCode
    omega
  · simp only [List.mem_cons,List.not_mem_nil,or_false] at other
    obtain rfl | rfl | rfl | rfl := other <;> decide

theorem beq_of_isPlainChar (c sign : Char) (plain : isPlainChar c = true)
    (foreign : ¬ IsPlainCode sign.toNat) : (c == sign) = false := by
  rw [beq_eq_false_iff_ne]
  rintro rfl
  exact foreign (toNat_of_isPlainChar c plain)

theorem isPrintable_of_isPlainChar (c : Char) (plain : isPlainChar c = true) :
    Text.isPrintable c = true := by
  have bounds := toNat_of_isPlainChar c plain
  unfold IsPlainCode at bounds
  have ascii : c.toNat < 0x80 := by omega
  simp only [Text.isPrintable,ascii,if_true]
  simp
  omega

structure Inert (c : Char) : Prop where
  unbroken : isBreak c = false
  visible : isBlank c = false
  hash : (c == '#') = false

theorem inert_of_isPlainChar (c : Char) (plain : isPlainChar c = true) : Inert c := by
  have apart (sign : Char) := beq_of_isPlainChar c sign plain
  have codes : (c.toNat == 0x2028) = false ∧ (c.toNat == 0x2029) = false := by
    have code := toNat_of_isPlainChar c plain
    unfold IsPlainCode at code
    simp only [beq_eq_false_iff_ne]
    omega
  constructor
  · simp [isBreak,apart '\n' (by decide),codes]
  · simp [isBlank,apart ' ' (by decide),apart '\t' (by decide)]
  · exact apart '#' (by decide)

theorem readPlain_word (indent : Int) (column : Nat) (word text rest : List Char)
    (plain : ∀ c ∈ word, isPlainChar c = true) :
    readPlain false indent column .none text (word ++ rest) =
      readPlain false indent (column + word.length) .none (word.reverse ++ text) rest := by
  induction word generalizing column text with
  | nil => rfl
  | cons c word ih =>
    obtain ⟨first,later⟩ := List.forall_mem_cons.mp plain
    obtain ⟨unbroken,visible,_⟩ := inert_of_isPlainChar c first
    have colon := beq_of_isPlainChar c ':' first (by decide)
    have next : readPlain false indent column .none text (c :: (word ++ rest)) =
        readPlain false indent (column + 1) .none (c :: text) (word ++ rest) := by
      rw [readPlain]
      simp only [unbroken,visible,colon,Gap.isNone,Gap.none,Gap.fold,Bool.false_eq_true,if_false,
        Bool.false_and,Bool.not_true,Bool.or_false,List.nil_append]
    rw [List.cons_append,next,ih _ _ later]
    simp [Nat.add_comm,Nat.add_left_comm]

/-- A key ends before its colon. -/
theorem readPlain_colon (indent : Int) (column : Nat) (text rest : List Char) :
    readPlain false indent column .none text (':' :: ' ' :: rest) =
      some ⟨text.reverse,':' :: ' ' :: rest,false⟩ := by
  rfl

/-- What stands behind a line break and is not indented belongs to the next key. -/
theorem readPlain_line (column : Nat) (text rest : List Char)
    (begins : ∀ c ∈ rest.head?, isPlainChar c = true) :
    readPlain false 1 column .none text ('\n' :: rest) = some ⟨text.reverse,rest,true⟩ := by
  have broken : readPlain false 1 column .none text ('\n' :: rest) =
      readPlain false 1 0 (.breaks (some '\n') []) text rest := rfl
  rw [broken]
  cases rest with
  | nil => rfl
  | cons c rest =>
    obtain ⟨unbroken,visible,_⟩ := inert_of_isPlainChar c (begins c rfl)
    rw [readPlain]
    simp [unbroken,visible,Gap.isNone,Gap.hasBreak]

theorem isBreak_of_isPrintable (c : Char) (shown : Text.isPrintable c = true) :
    isBreak c = false := by
  obtain ⟨low,_,apart⟩ := toNat_of_isPrintable c shown
  have feed : (c == '\n') = false := by
    rw [beq_eq_false_iff_ne]
    rintro rfl
    exact absurd low (by decide)
  simp only [List.mem_cons,not_or] at apart
  simp [isBreak,feed,apart]

/-- Between single quotes a printable text stands for itself, but for its quotes, which are doubled. -/
theorem readSingleQuoted_quoted (chars blanks text rest : List Char)
    (shown : ∀ c ∈ chars, Text.isPrintable c = true) :
    readSingleQuoted false (.blanks blanks) text (chars.flatMap quoteChar ++ '\'' :: '\n' :: rest) =
      some ⟨(blanks ++ text).reverse ++ chars,'\n' :: rest,false⟩ := by
  induction chars generalizing blanks text with
  | nil =>
    rw [List.append_nil]
    rfl
  | cons c chars ih =>
    obtain ⟨first,later⟩ := List.forall_mem_cons.mp shown
    rw [List.flatMap_cons,List.append_assoc]
    by_cases quote : c = '\''
    · subst quote
      exact (ih [] _ later).trans (by simp [Gap.fold])
    · have unquoted : (c == '\'') = false := beq_eq_false_iff_ne.mpr quote
      have unbroken := isBreak_of_isPrintable c first
      rw [quoteChar,unquoted]
      simp only [Bool.false_eq_true,if_false,List.singleton_append]
      rw [readSingleQuoted.eq_def]
      simp only [Bool.false_and,Bool.false_eq_true,if_false,unbroken,unquoted]
      cases blank : isBlank c with
      | true =>
        simp only [if_true,Gap.addBlank,ih _ text later]
        simp
      | false =>
        simp only [Bool.false_eq_true,if_false]
        exact (ih [] _ later).trans (by simp [Gap.fold])

theorem toNat_lt_of_valid (c : Char) : c.toNat < 0x110000 := by
  have valid : c.toNat < 0xD800 ∨ 0xDFFF < c.toNat ∧ c.toNat < 0x110000 := c.valid
  omega

theorem hexChar_paddedHex (c : Char) :
    hexChar? (Text.paddedHex 8 c.toNat).toList = some c := by
  have valid : c.toNat.isValidChar := c.valid
  rw [hexChar?,Text.readDigits_paddedHex 8 _ _ (toNat_lt_of_valid c)]
  exact dif_pos valid

theorem paddedHex_eight (c : Char) : ∃ d₁ d₂ d₃ d₄ d₅ d₆ d₇ d₈,
    (Text.paddedHex 8 c.toNat).toList = [d₁,d₂,d₃,d₄,d₅,d₆,d₇,d₈] := by
  have small : (Nat.toDigits 16 c.toNat).length ≤ 8 :=
    (Nat.length_toDigits_le_iff (by decide) (by decide)).mpr
      (Nat.lt_trans (toNat_lt_of_valid c) (by decide))
  have size : (Text.paddedHex 8 c.toNat).toList.length = 8 := by
    rw [Text.paddedHex,String.toList_ofList,List.length_append,List.length_replicate]
    omega
  generalize (Text.paddedHex 8 c.toNat).toList = digits at size
  obtain _ | ⟨d₁,_ | ⟨d₂,_ | ⟨d₃,_ | ⟨d₄,_ | ⟨d₅,_ | ⟨d₆,_ | ⟨d₇,_ | ⟨d₈,_ | more⟩⟩⟩⟩⟩⟩⟩⟩ := digits
  all_goals first | exact ⟨_,_,_,_,_,_,_,_,rfl⟩ | simp at size

/-- Between double quotes a character, as it is written, is read as itself. -/
theorem readDoubleQuoted_escapeChar (c : Char) (blanks text rest : List Char) :
    ∃ between before, between ++ before = c :: (blanks ++ text) ∧
      readDoubleQuoted false (.blanks blanks) text (escapeChar c ++ rest) =
        readDoubleQuoted false (.blanks between) before rest := by
  have taken : ∃ between before, between ++ before = c :: (blanks ++ text) ∧
      readDoubleQuoted false .none (c :: (blanks ++ text)) rest =
        readDoubleQuoted false (.blanks between) before rest := ⟨[],_,rfl,rfl⟩
  unfold escapeChar
  split
  next sign =>
    obtain rfl | rfl : c = '"' ∨ c = '\\' := by simpa using sign
    · exact taken
    · exact taken
  next sign =>
    obtain ⟨quote,slash⟩ : c ≠ '"' ∧ c ≠ '\\' := by simpa using sign
    split
    next feed =>
      cases eq_of_beq feed
      exact taken
    split
    next shown =>
      have unbroken := isBreak_of_isPrintable c shown
      have unquoted : (c == '"') = false := beq_eq_false_iff_ne.mpr quote
      rw [List.singleton_append,readDoubleQuoted]
      · simp only [Bool.false_and,Bool.false_eq_true,if_false,unbroken,unquoted]
        split
        next => exact ⟨c :: blanks,text,rfl,rfl⟩
        next => exact taken
      · exact slash
    next =>
      obtain ⟨d₁,d₂,d₃,d₄,d₅,d₆,d₇,d₈,digits⟩ := paddedHex_eight c
      have code := hexChar_paddedHex c
      rw [digits] at code ⊢
      have read : readDoubleQuoted false (.blanks blanks) text
          ('\\' :: 'U' :: d₁ :: d₂ :: d₃ :: d₄ :: d₅ :: d₆ :: d₇ :: d₈ :: rest) =
            readDoubleQuoted false .none (c :: (blanks ++ text)) rest := by
        rw [readDoubleQuoted.eq_def]
        simp only [code]
        rfl
      simp only [List.cons_append,List.nil_append,read]
      exact taken

/-- Between double quotes every text can be written. -/
theorem readDoubleQuoted_quoted (chars blanks text rest : List Char) :
    readDoubleQuoted false (.blanks blanks) text (chars.flatMap escapeChar ++ '"' :: rest) =
      some ⟨(blanks ++ text).reverse ++ chars,rest,false⟩ := by
  induction chars generalizing blanks text with
  | nil => simp [readDoubleQuoted,isBreak,isBlank,Gap.fold]
  | cons c chars ih =>
    obtain ⟨between,before,joined,read⟩ :=
      readDoubleQuoted_escapeChar c blanks text (chars.flatMap escapeChar ++ '"' :: rest)
    rw [List.flatMap_cons,List.append_assoc,read,ih,joined]
    simp

theorem isPrintable_quoteChar (c : Char) (shown : Text.isPrintable c = true) :
    ∀ d ∈ quoteChar c, Text.isPrintable d = true := by
  unfold quoteChar
  split <;> simpa using shown

theorem isPrintable_hexDigit (c : Char) (digit : Text.IsHexDigit c) : Text.isPrintable c = true := by
  have order (a b : Char) : a ≤ b ↔ a.toNat ≤ b.toNat := UInt32.le_iff_toNat_le
  simp only [Text.IsHexDigit,order] at digit
  simp at digit
  have ascii : c.toNat < 0x80 := by omega
  simp only [Text.isPrintable,ascii,if_true]
  simp
  omega

/-- Escapes are made of printable characters. -/
theorem isPrintable_escapeChar (c : Char) : ∀ d ∈ escapeChar c, Text.isPrintable d = true := by
  unfold escapeChar
  split
  next sign =>
    obtain rfl | rfl : c = '"' ∨ c = '\\' := by simpa using sign
    · exact List.all_eq_true.mp (by decide)
    · exact List.all_eq_true.mp (by decide)
  split
  next => exact List.all_eq_true.mp (by decide)
  split
  next shown => simpa using shown
  next =>
    rw [List.forall_mem_append]
    refine ⟨List.all_eq_true.mp (by decide),fun d digit => isPrintable_hexDigit d ?_⟩
    have read := Text.readDigits_paddedHex 8 _ _ (toNat_lt_of_valid c)
    rw [Text.isHexDigit_iff]
    exact ((Text.readDigits_eq_ok 16 _ 0 _ _ (by decide) (by decide)).mp read).1 d digit

end SoloMining.Yaml
