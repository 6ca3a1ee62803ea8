import SoloMining.Json.Document
import SoloMining.Json.Printer
import Mathlib.Algebra.Group.Int.Defs
import Mathlib.Algebra.Group.Nat.Defs
import Mathlib.Data.Char

/-! Written JSON reads back. The text of a value whose numbers are integers of 64 bits is well formed
and leads to the document of the value: strings character for character, integers exactly, and
members in the order in which they were written. -/
namespace SoloMining.Json

open Document

/-! Strings -/

inductive Escaped (c : Char) : List Char → Prop
  | named (letter : Char) (names : escapedChar? letter = some c) (short : letter ≠ 'u') :
      Escaped c ['\\',letter]
  | unit (control : c.toNat < 32) :
      Escaped c ['\\','u','0','0',hexDigit (c.toNat / 16),hexDigit (c.toNat % 16)]
  | plain (shown : ¬ c.toNat < 32) (quote : c ≠ '"') (backslash : c ≠ '\\') : Escaped c [c]

private theorem named_of_toNat (letter : Char) (n : Nat) (c : Char) (is : c.toNat = n)
    (names : escapedChar? letter = some (Char.ofNat n)) : escapedChar? letter = some c := by
  rwa [← is,Char.ofNat_toNat] at names

theorem escaped_escapeChar (c : Char) : Escaped c (escapeChar c) := by
  unfold escapeChar
  split
  next quote => exact .named '"' (by rw [quote]; decide) (by decide)
  next quote =>
    split
    next slash => exact .named '\\' (by rw [slash]; decide) (by decide)
    next slash =>
      split
      next is => exact .named 'b' (named_of_toNat 'b' 8 c is (by decide)) (by decide)
      split
      next is => exact .named 't' (by rw [is]; decide) (by decide)
      split
      next is => exact .named 'n' (by rw [is]; decide) (by decide)
      split
      next is => exact .named 'f' (named_of_toNat 'f' 12 c is (by decide)) (by decide)
      split
      next is => exact .named 'r' (by rw [is]; decide) (by decide)
      split
      next control => exact .unit control
      next shown => exact .plain shown quote slash

private theorem hexUnit_control : ∀ n < 32,
    hexUnit? '0' '0' (hexDigit (n / 16)) (hexDigit (n % 16)) = some n := by
  decide

private theorem ofUnit_control (c : Char) (control : c.toNat < 32) :
    Piece.ofUnit c.toNat = .char c := by
  have high : isHighSurrogate c.toNat = false := by simp [isHighSurrogate]; omega
  have low : isLowSurrogate c.toNat = false := by simp [isLowSurrogate]; omega
  rw [Piece.ofUnit,high,low,Char.ofNat_toNat]
  rfl

/-- A written character reads as itself, whatever follows. -/
theorem readPieces_escaped (c : Char) (written rest : List Char) (escaped : Escaped c written) :
    readPieces (written ++ rest) = (readPieces rest).map (pushPiece (.char c)) := by
  cases escaped with
  | named letter names short =>
    rw [List.cons_append,List.singleton_append,readPieces]
    · rw [names]
    · intro a b c d rest same
      exact absurd same short
  | unit control =>
    simp only [List.cons_append,List.nil_append,readPieces,hexUnit_control c.toNat control,
      ofUnit_control c control]
  | plain shown quote backslash =>
    have kept : ¬ (c.toNat < 32 ∨ c = '\\') := not_or.mpr ⟨shown,backslash⟩
    rw [List.singleton_append,readPieces,if_neg kept]
    · exact quote
    · intro _ _ _ _ _ slash
      exact absurd slash backslash
    · intro _ _ slash
      exact absurd slash backslash

theorem joinPieces_chars (cs : List Char) : joinPieces (cs.map .char) = some cs := by
  induction cs with
  | nil => rfl
  | cons c rest ih => rw [List.map_cons,joinPieces,ih,Option.map_some]

/-- A written string up to its closing quote. -/
theorem readString_escaped (cs rest : List Char) :
    readString (cs.flatMap escapeChar ++ '"' :: rest) = some (some cs,rest) := by
  have pieces : readPieces (cs.flatMap escapeChar ++ '"' :: rest) =
      some (cs.map .char,rest) := by
    induction cs with
    | nil => rw [List.flatMap_nil,List.nil_append,readPieces,List.map_nil]
    | cons c more ih =>
      rw [List.flatMap_cons,List.append_assoc,readPieces_escaped c _ _ (escaped_escapeChar c),ih]
      rfl
  simp only [readString,pieces,Option.map_some,joinPieces_chars]

/-! Numbers -/

def EndsNumber (rest : List Char) : Prop :=
  ∀ c ∈ rest.head?, Document.isDigit c = false ∧ c ≠ '.' ∧ c ≠ 'e' ∧ c ≠ 'E'

theorem isDigit_of_mem_toDigits (n : Nat) (c : Char) (member : c ∈ Nat.toDigits 10 n) :
    Document.isDigit c = true :=
  Nat.isDigit_of_mem_toDigits (by decide) (by decide) member

private theorem digitChar_positive : ∀ n < 10, 0 < n → n.digitChar ≠ '0' := by decide

theorem toDigits_head (n : Nat) (positive : 0 < n) (rest : List Char) :
    Nat.toDigits 10 n ≠ '0' :: rest := by
  induction n using Nat.strong_induction_on generalizing rest with
  | _ n ih =>
    rw [Nat.toDigits_eq_if (by decide)]
    split
    next small =>
      intro same
      exact digitChar_positive n small positive (List.cons.inj same).1
    next large =>
      intro same
      have front := ih (n / 10) (by omega) (by omega)
      cases digits : Nat.toDigits 10 (n / 10) with
      | nil => exact absurd (digits ▸ Nat.length_toDigits_pos) (by simp)
      | cons c more =>
        rw [digits,List.cons_append] at same
        exact front more (by rw [digits,(List.cons.inj same).1])

theorem takeDigits_toDigits (n : Nat) (rest : List Char) (ends : EndsNumber rest) :
    takeDigits (Nat.toDigits 10 n ++ rest) = (Nat.toDigits 10 n,rest) := by
  have digits := isDigit_of_mem_toDigits n
  rw [takeDigits,List.takeWhile_append_of_pos digits,List.dropWhile_append_of_pos digits]
  cases rest with
  | nil => simp
  | cons c more => simp [(ends c rfl).1]

theorem readWhole_toDigits (n : Nat) (rest : List Char) (ends : EndsNumber rest) :
    readWhole (Nat.toDigits 10 n ++ rest) = some (Nat.toDigits 10 n,rest) := by
  rw [readWhole,takeDigits_toDigits n rest ends]
  cases Nat.eq_zero_or_pos n with
  | inl zero => rw [zero]; rfl
  | inr positive =>
    have head := toDigits_head n positive
    have some : Nat.toDigits 10 n ≠ [] := List.ne_nil_of_length_pos Nat.length_toDigits_pos
    split <;> simp_all

theorem readNumber_toDigits (negative : Bool) (n : Nat) (rest : List Char)
    (ends : EndsNumber rest) : readNumber negative (Nat.toDigits 10 n ++ rest) =
      some (numberOf negative (Nat.toDigits 10 n) [] none,rest) := by
  have fraction : readFraction rest = some ([],rest) := by
    unfold readFraction
    split
    next => exact absurd rfl (ends _ rfl).2.1
    next => rfl
  have exponent : readExponent rest = some (none,rest) := by
    unfold readExponent
    split
    next => exact absurd rfl (ends _ rfl).2.2.1
    next => exact absurd rfl (ends _ rfl).2.2.2
    next => rfl
  simp only [readNumber,readWhole_toDigits n rest ends,fraction,exponent,Option.bind_eq_bind,
    Option.bind_some]

theorem digitsValue_toDigits (n : Nat) : Decimal.digitsValue (Nat.toDigits 10 n) = n :=
  Nat.ofDigitChars_toDigits (by decide) (by decide)

theorem numberOf_natural (n : Nat) (fits : n < 2 ^ 64) :
    numberOf false (Nat.toDigits 10 n) [] none = some (.integer n) := by
  simpa [numberOf,digitsValue_toDigits] using fits

theorem numberOf_negative (n : Nat) (positive : 0 < n) (fits : n ≤ 2 ^ 63) :
    numberOf true (Nat.toDigits 10 n) [] none = some (.integer (-n)) := by
  simpa [numberOf,digitsValue_toDigits,positive] using fits

/-! Values -/

/-- Values that text tells exactly and a reader takes: their numbers are integers of 64 bits, with a
sign or without, and their containers nest to a depth at most. -/
inductive Writable : Nat → Json → Prop
  | null (depth : Nat) : Writable depth .null
  | bool (depth : Nat) (b : Bool) : Writable depth (.bool b)
  | integer (depth : Nat) (n : Int) (low : -2 ^ 63 ≤ n) (high : n < 2 ^ 64) :
      Writable depth (.number (.integer n))
  | string (depth : Nat) (s : String) : Writable depth (.string s)
  | array (depth : Nat) (items : List Json) (each : ∀ item ∈ items, Writable depth item) :
      Writable (depth + 1) (.array items)
  | object (depth : Nat) (members : List (String × Json))
      (each : ∀ member ∈ members, Writable depth member.2) :
      Writable (depth + 1) (.object members)

theorem Writable.member {depth : Nat} {members : List (String × Json)}
    (writable : Writable (depth + 1) (.object members)) :
    ∀ member ∈ members, Writable depth member.2 := by
  cases writable with
  | object _ _ each => exact each

/-- The text of the value leads to its document, whatever ends the text, and no matter how much fuel
is left over. -/
def ReadsBack (j : Json) : Prop :=
  ∀ fuel rest, 2 * j.write.length ≤ fuel → EndsNumber rest →
    readValue fuel (j.write ++ rest) = (j.toDocument,some rest)

theorem skipBlanks_cons (c : Char) (rest : List Char) (shown : Document.isBlank c = false) :
    skipBlanks (c :: rest) = c :: rest := by
  rw [skipBlanks,shown]
  rfl

theorem isBlank_of_isDigit (d : Char) (digit : Document.isDigit d = true) :
    Document.isBlank d = false := by
  cases blank : Document.isBlank d with
  | false => rfl
  | true =>
    simp only [Document.isBlank,Bool.or_eq_true,beq_iff_eq] at blank
    rcases blank with ((rfl | rfl) | rfl) | rfl <;> exact absurd digit (by decide)

theorem readValue_digit (fuel : Nat) (d : Char) (rest : List Char)
    (digit : Document.isDigit d = true) : readValue (fuel + 1) (d :: rest) =
      match readNumber false (d :: rest) with
      | none => broken
      | some (n,rest) => (.number n,some rest) := by
  rw [readValue,skipBlanks_cons d rest (isBlank_of_isDigit d digit)]
  split
  case h_8 => rfl
  all_goals
    next _ same =>
      cases (List.cons.inj same).1
      exact absurd digit (by decide)

theorem readsBack_integer (n : Int) (low : -2 ^ 63 ≤ n) (high : n < 2 ^ 64) :
    ReadsBack (.number (.integer n)) := by
  intro fuel rest enough ends
  rw [write,Number.write,writeInt] at enough ⊢
  split at enough
  next negative =>
    obtain ⟨fuel,rfl⟩ : ∃ less, fuel = less + 1 := Nat.exists_eq_add_of_le' (by simp at enough; omega)
    have number := numberOf_negative n.natAbs (by omega) (by omega)
    have value : (-(n.natAbs : Int)) = n := by omega
    rw [if_pos negative,List.cons_append,readValue,skipBlanks_cons '-' _ (by decide)]
    simp only [readNumber_toDigits true n.natAbs rest ends,number,value]
    rfl
  next natural =>
    have positive : 0 < (Nat.toDigits 10 n.natAbs).length := Nat.length_toDigits_pos
    obtain ⟨fuel,rfl⟩ : ∃ less, fuel = less + 1 := Nat.exists_eq_add_of_le' (by omega)
    have number := numberOf_natural n.natAbs (by omega)
    have value : (n.natAbs : Int) = n := by omega
    have read := readNumber_toDigits false n.natAbs rest ends
    have digits := isDigit_of_mem_toDigits n.natAbs
    rw [number,value] at read
    rw [if_neg natural]
    cases written : Nat.toDigits 10 n.natAbs with
    | nil => simp [written] at positive
    | cons d more =>
      rw [written] at read digits
      rw [List.cons_append,readValue_digit fuel d _ (digits d List.mem_cons_self),
        ← List.cons_append,read]
      rfl

theorem readsBack_string (s : String) : ReadsBack (.string s) := by
  intro fuel rest enough ends
  have read := readString_escaped s.toList rest
  rw [write,writeString] at enough ⊢
  obtain ⟨fuel,rfl⟩ : ∃ less, fuel = less + 1 := Nat.exists_eq_add_of_le' (by simp at enough; omega)
  rw [List.append_assoc,List.cons_append,readValue,skipBlanks_cons '"' _ (by decide)]
  simp only [List.singleton_append,read,Option.map_some,String.ofList_toList]
  rfl

/-- Neither a blank nor the end of an array begins the text of a value. -/
theorem Writable.write_cons {depth : Nat} {j : Json} (writable : Writable depth j) :
    ∃ c more, j.write = c :: more ∧ Document.isBlank c = false ∧ c ≠ ']' := by
  cases writable with
  | null => exact ⟨_,_,rfl,by decide,by decide⟩
  | bool _ b => cases b <;> exact ⟨_,_,rfl,by decide,by decide⟩
  | string => exact ⟨_,_,rfl,by decide,by decide⟩
  | array => exact ⟨_,_,rfl,by decide,by decide⟩
  | object => exact ⟨_,_,rfl,by decide,by decide⟩
  | integer _ n =>
    rw [write,Number.write,writeInt]
    split
    next => exact ⟨_,_,rfl,by decide,by decide⟩
    next =>
      have digits := isDigit_of_mem_toDigits n.natAbs
      cases written : Nat.toDigits 10 n.natAbs with
      | nil => exact absurd (written ▸ Nat.length_toDigits_pos) (by simp)
      | cons d more =>
        have digit := digits d (written ▸ List.mem_cons_self)
        refine ⟨d,more,rfl,isBlank_of_isDigit d digit,?_⟩
        intro bracket
        exact absurd (bracket ▸ digit) (by decide)

theorem endsNumber_cons (c : Char) (rest : List Char)
    (ends : Document.isDigit c = false ∧ c ≠ '.' ∧ c ≠ 'e' ∧ c ≠ 'E') : EndsNumber (c :: rest) := by
  intro d first
  cases Option.mem_some.mp first
  exact ends

theorem readItems_writeItems (items : List Json) (each : ∀ item ∈ items, ReadsBack item)
    (nonempty : items ≠ []) (fuel : Nat) (rest : List Char)
    (enough : 2 * (writeItems items).length ≤ fuel) :
    readItems fuel (writeItems items ++ rest) = (itemsToDocument items,some rest) := by
  induction items generalizing fuel with
  | nil => exact absurd rfl nonempty
  | cons item others ih =>
    obtain ⟨first,later⟩ := List.forall_mem_cons.mp each
    cases others with
    | nil =>
      rw [writeItems,List.length_append,List.length_singleton] at enough
      obtain ⟨fuel,rfl⟩ : ∃ less, fuel = less + 1 := Nat.exists_eq_add_of_le' (by omega)
      have read := first fuel (']' :: rest) (by omega) (endsNumber_cons _ _ (by decide))
      rw [writeItems,List.append_assoc,List.singleton_append,readItems,read]
      simp only [skipBlanks_cons ']' rest (by decide)]
      rfl
    | cons next more =>
      rw [writeItems,List.length_append,List.length_cons] at enough
      obtain ⟨fuel,rfl⟩ : ∃ less, fuel = less + 1 := Nat.exists_eq_add_of_le' (by omega)
      have read := first fuel (',' :: (writeItems (next :: more) ++ rest)) (by omega)
        (endsNumber_cons _ _ (by decide))
      have reads := ih later (by simp) fuel (by omega)
      rw [writeItems,List.append_assoc,List.cons_append,readItems,read]
      simp only [skipBlanks_cons ',' _ (by decide),reads]
      rfl

theorem readMembers_last (fuel : Nat) (key : String) (text rest : List Char) (value : Document)
    (last : readValue fuel text = (value,some ('\x7d' :: rest))) :
    readMembers (fuel + 1) (writeString key ++ ':' :: text) = ([(some key,value)],some rest) := by
  have read := readString_escaped key.toList (':' :: text)
  rw [writeString,List.append_assoc,List.cons_append,readMembers,
    skipBlanks_cons '"' _ (by decide)]
  simp only [List.singleton_append,read,Option.map_some,String.ofList_toList,
    skipBlanks_cons ':' text (by decide),last,skipBlanks_cons '\x7d' rest (by decide)]

theorem readMembers_next (fuel : Nat) (key : String) (text rest : List Char) (value : Document)
    (next : readValue fuel text = (value,some (',' :: rest))) :
    readMembers (fuel + 1) (writeString key ++ ':' :: text) =
      ((some key,value) :: (readMembers fuel rest).1,(readMembers fuel rest).2) := by
  have read := readString_escaped key.toList (':' :: text)
  rw [writeString,List.append_assoc,List.cons_append,readMembers,
    skipBlanks_cons '"' _ (by decide)]
  simp only [List.singleton_append,read,Option.map_some,String.ofList_toList,
    skipBlanks_cons ':' text (by decide),next,skipBlanks_cons ',' rest (by decide)]

theorem readMembers_writeMembers (members : List (String × Json))
    (each : ∀ member ∈ members, ReadsBack member.2) (nonempty : members ≠ []) (fuel : Nat)
    (rest : List Char) (enough : 2 * (writeMembers members).length ≤ fuel) :
    readMembers fuel (writeMembers members ++ rest) = (membersToDocument members,some rest) := by
  induction members generalizing fuel with
  | nil => exact absurd rfl nonempty
  | cons member others ih =>
    obtain ⟨key,value⟩ := member
    obtain ⟨first,later⟩ := List.forall_mem_cons.mp each
    have first : ReadsBack value := first
    cases others with
    | nil =>
      simp only [writeMembers,List.length_append,List.length_cons] at enough
      obtain ⟨fuel,rfl⟩ : ∃ less, fuel = less + 1 := Nat.exists_eq_add_of_le' (by omega)
      have read := first fuel ('\x7d' :: rest) (by omega) (endsNumber_cons _ _ (by decide))
      rw [writeMembers,List.append_assoc,List.append_assoc,List.cons_append]
      exact readMembers_last fuel key _ rest _ read
    | cons next more =>
      simp only [writeMembers,List.length_append,List.length_cons] at enough
      obtain ⟨fuel,rfl⟩ : ∃ less, fuel = less + 1 := Nat.exists_eq_add_of_le' (by omega)
      have read := first fuel (',' :: (writeMembers (next :: more) ++ rest)) (by omega)
        (endsNumber_cons _ _ (by decide))
      have reads := ih later (by simp) fuel (by omega)
      rw [writeMembers,List.append_assoc,List.append_assoc,List.cons_append]
      have whole := readMembers_next fuel key _ _ _ read
      rw [reads] at whole
      exact whole

theorem readValue_array (fuel : Nat) (c : Char) (rest : List Char)
    (shown : Document.isBlank c = false) (opens : c ≠ ']') :
    readValue (fuel + 1) ('[' :: c :: rest) =
      (.array (readItems fuel (c :: rest)).1,(readItems fuel (c :: rest)).2) := by
  rw [readValue,skipBlanks_cons '[' _ (by decide)]
  simp only [skipBlanks_cons c rest shown]
  split
  next same => exact absurd (List.cons.inj same).1 opens
  next => rfl

theorem readValue_object (fuel : Nat) (rest : List Char) :
    readValue (fuel + 1) ('\x7b' :: '"' :: rest) =
      (.object (readMembers fuel ('"' :: rest)).1,(readMembers fuel ('"' :: rest)).2) := by
  rw [readValue,skipBlanks_cons '\x7b' _ (by decide)]
  simp only [skipBlanks_cons '"' rest (by decide)]
  rfl

theorem Writable.readsBack {depth : Nat} {j : Json} (writable : Writable depth j) :
    ReadsBack j := by
  induction writable with
  | null depth =>
    intro fuel rest enough _
    obtain ⟨fuel,rfl⟩ : ∃ less, fuel = less + 1 :=
      Nat.exists_eq_add_of_le' (by simp [write] at enough; omega)
    simp only [write,List.cons_append,List.nil_append,readValue,
      skipBlanks_cons 'n' _ (by decide)]
    rfl
  | bool depth b =>
    intro fuel rest enough _
    cases b with
    | true =>
      obtain ⟨fuel,rfl⟩ : ∃ less, fuel = less + 1 :=
        Nat.exists_eq_add_of_le' (by simp [write] at enough; omega)
      simp only [write,List.cons_append,List.nil_append,readValue,
        skipBlanks_cons 't' _ (by decide)]
      rfl
    | false =>
      obtain ⟨fuel,rfl⟩ : ∃ less, fuel = less + 1 :=
        Nat.exists_eq_add_of_le' (by simp [write] at enough; omega)
      simp only [write,List.cons_append,List.nil_append,readValue,
        skipBlanks_cons 'f' _ (by decide)]
      rfl
  | integer depth n low high => exact readsBack_integer n low high
  | string depth s => exact readsBack_string s
  | array depth items each ih =>
    intro fuel rest enough _
    rw [write,List.length_cons] at enough
    obtain ⟨fuel,rfl⟩ : ∃ less, fuel = less + 1 := Nat.exists_eq_add_of_le' (by omega)
    cases items with
    | nil =>
      rw [write,writeItems,List.cons_append,List.singleton_append,readValue,
        skipBlanks_cons '[' _ (by decide)]
      simp only [skipBlanks_cons ']' rest (by decide)]
      rfl
    | cons item others =>
      have read := readItems_writeItems (item :: others) ih (by simp) fuel rest (by omega)
      obtain ⟨c,more,begins,shown,opens⟩ := (each item List.mem_cons_self).write_cons
      obtain ⟨tail,text⟩ : ∃ tail, writeItems (item :: others) = c :: tail := by
        cases others <;> simp [writeItems,begins]
      rw [text,List.cons_append] at read
      rw [write,text,List.cons_append,List.cons_append,readValue_array fuel c _ shown opens,read]
      rfl
  | object depth members each ih =>
    intro fuel rest enough _
    rw [write,List.length_cons] at enough
    obtain ⟨fuel,rfl⟩ : ∃ less, fuel = less + 1 := Nat.exists_eq_add_of_le' (by omega)
    cases members with
    | nil =>
      rw [write,writeMembers,List.cons_append,List.singleton_append,readValue,
        skipBlanks_cons '\x7b' _ (by decide)]
      simp only [skipBlanks_cons '\x7d' rest (by decide)]
      rfl
    | cons member others =>
      have read := readMembers_writeMembers (member :: others) ih (by simp) fuel rest (by omega)
      obtain ⟨tail,text⟩ : ∃ tail, writeMembers (member :: others) = '"' :: tail := by
        cases others <;> simp [writeMembers,writeString]
      rw [text,List.cons_append] at read
      rw [write,text,List.cons_append,List.cons_append,readValue_object,read]
      rfl

/-- The text of a value is well formed and leads to its document. -/
theorem Writable.ofText_render {depth : Nat} {j : Json} (writable : Writable depth j) :
    Document.ofText j.render = (j.toDocument,true) := by
  have whole := writable.readsBack (2 * j.write.length + 2) [] (by omega) (by simp [EndsNumber])
  rw [List.append_nil] at whole
  rw [Document.ofText,render,String.toList_ofList,ofChars,whole]
  rfl

end SoloMining.Json
