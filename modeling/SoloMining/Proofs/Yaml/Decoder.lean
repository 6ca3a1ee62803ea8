import SoloMining.Proofs.Json.Members
import SoloMining.Proofs.Json.Printer
import SoloMining.Proofs.Yaml.Record

/-! Decoders that read a written value back: of texts, of truth values, of numbers of a fixed width, and
through them of optional values. -/
namespace SoloMining.Yaml

namespace Decoder

variable {α : Type}

def Undoes (decoder : Decoder α) (encode : α → Json) : Prop :=
  ∀ a, decoder (scalarNode (encode a)) = some a

theorem text_undoes : text.Undoes .string := fun _ => rfl

theorem bool_undoes : Decoder.Undoes bool .bool := by
  intro b
  cases b <;> rfl

/-- No sign, no base and no zeros in front: the digits are read as they stand. -/
theorem natural?_digits (bound : Nat) (c : Char) (rest : List Char) (sign : c ≠ '+')
    (zero : c = '0' → rest = []) :
    natural? bound (c :: rest) = digits? 10 bound (c :: rest) := by
  by_cases first : c = '0'
  · cases zero first
    cases first
    rfl
  · unfold natural? decimal?
    split
    next same => exact absurd (List.cons.inj same).1 sign
    next =>
      dsimp only
      split
      next same => exact absurd (List.cons.inj same).1 first
      next same => exact absurd (List.cons.inj same).1 first
      next same => exact absurd (List.cons.inj same).1 first
      next =>
        split
        next same => exact absurd (List.cons.inj same).1 first
        next => rfl

theorem natural?_toDigits (bound n : Nat) (fits : n < bound) :
    natural? bound (Nat.toDigits 10 n) = some n := by
  have read : digits? 10 bound (Nat.toDigits 10 n) = some n := by
    have digits := Text.readDigits_toDigits 10 bound n (by decide) (by decide) fits
    simp [digits?,digits,Except.toOption]
  cases digits : Nat.toDigits 10 n with
  | nil => exact absurd digits (List.ne_nil_of_length_pos Nat.length_toDigits_pos)
  | cons c rest =>
    rw [← read,digits]
    apply natural?_digits
    · rintro rfl
      have digit : '+'.isDigit = true :=
        Nat.isDigit_of_mem_toDigits (by decide) (by decide) (digits ▸ List.mem_cons_self)
      cases digit
    · rintro rfl
      cases Nat.eq_zero_or_pos n with
      | inl zero =>
        rw [zero] at digits
        exact (List.cons.inj digits).2.symm
      | inr positive => exact absurd digits (Json.toDigits_head n positive rest)

theorem spelling_ofNat (typeName : String) (n : Nat) :
    spelling typeName (scalarNode (.ofNat n)) = some (Nat.toDigits 10 n) := by
  have text : (textOf (.ofNat n)).toList = Nat.toDigits 10 n := render_ofNat n
  rw [← text]
  rfl

theorem natural_ofNat (bound n : Nat) (fits : n < bound) :
    natural bound (scalarNode (.ofNat n)) = some n := by
  rw [natural,spelling_ofNat,Option.bind_some,natural?_toDigits bound n fits]

theorem uint16_undoes : Decoder.Undoes uint16 fun n => .ofNat n.toNat := by
  intro n
  rw [uint16,natural_ofNat _ _ n.toNat_lt_size,Option.map_some,UInt16.ofNat_toNat]

theorem uint32_undoes : Decoder.Undoes uint32 fun n => .ofNat n.toNat := by
  intro n
  rw [uint32,natural_ofNat _ _ n.toNat_lt_size,Option.map_some,UInt32.ofNat_toNat]

theorem uint64_undoes : Decoder.Undoes uint64 fun n => .ofNat n.toNat := by
  intro n
  rw [uint64,natural_ofNat _ _ n.toNat_lt_size,Option.map_some,UInt64.ofNat_toNat]

theorem choice_undoes (variants : List (String × α)) (name : α → String)
    (known : ∀ a, variants.lookup (name a) = some a) :
    (choice variants).Undoes fun a => .string (name a) := by
  intro a
  exact known a

theorem isNullText_cases (s : String) (null : isNullText s = true) :
    s = "null" ∨ s = "Null" ∨ s = "NULL" ∨ s = "~" := by
  simpa [isNullText] using null

private theorem isEmpty_of_toList (s : String) (c : Char) (rest : List Char)
    (text : s.toList = c :: rest) : s.isEmpty = false := by
  rw [← Bool.not_eq_true,String.isEmpty_iff]
  rintro rfl
  cases text

/-- No written text is taken for nothing. -/
theorem isNull_string (s : String) : isNull (scalarNode (.string s)) = false := by
  simp only [scalarNode,styleOf,textOf]
  cases plain : isPlainText s with
  | false => rfl
  | true =>
    obtain ⟨⟨c,rest,text,_⟩,each⟩ := word_of_isPlainText s plain
    have nonempty := isEmpty_of_toList s c rest text
    have named : isNullText s = false := by
      rw [← Bool.not_eq_true]
      intro null
      have unreserved : reservedWords.contains s.toLower = false := by
        simp only [isPlainText,Bool.and_eq_true,Bool.not_eq_true'] at plain
        exact plain.1.2
      obtain rfl | rfl | rfl | rfl := isNullText_cases s null
      · exact absurd unreserved (by decide +kernel)
      · exact absurd unreserved (by decide +kernel)
      · exact absurd unreserved (by decide +kernel)
      · exact absurd (toNat_of_isPlainChar '~' (each '~' (by decide))) (by decide)
    simp [isNull,nonempty,named]

theorem isNull_ofNat (n : Nat) : isNull (scalarNode (.ofNat n)) = false := by
  have text : (textOf (.ofNat n)).toList = Nat.toDigits 10 n := render_ofNat n
  have named : isNullText (textOf (.ofNat n)) = false := by
    rw [← Bool.not_eq_true]
    intro null
    have digits : (textOf (.ofNat n)).toList.all Char.isDigit = true := by
      rw [text]
      exact List.all_eq_true.mpr fun c => Nat.isDigit_of_mem_toDigits (by decide) (by decide)
    obtain same | same | same | same := isNullText_cases _ null
    all_goals
      rw [same] at digits
      exact absurd digits (by decide)
  cases digits : Nat.toDigits 10 n with
  | nil => exact absurd digits (List.ne_nil_of_length_pos Nat.length_toDigits_pos)
  | cons c rest =>
    have nonempty := isEmpty_of_toList _ c rest (text.trans digits)
    change ((textOf (.ofNat n)).isEmpty || isNullText (textOf (.ofNat n))) = false
    rw [nonempty,named,Bool.or_false]

theorem Undoes.optional {decoder : Decoder α} {encode : α → Json} (undoes : decoder.Undoes encode)
    (present : ∀ a, isNull (scalarNode (encode a)) = false) :
    (Decoder.optional decoder).Undoes (Json.ofOption encode) := by
  intro value
  cases value with
  | none => rfl
  | some a =>
    have read := undoes a
    have given := present a
    rw [Json.ofOption]
    unfold Decoder.optional
    split
    next same => cases (Node.scalar.inj same).2.1
    next => rw [given,read]; rfl

end Decoder

namespace Record

def ofMembers (members : List (String × Json)) : Record :=
  ⟨members.map fun member => (member.1,scalarNode member.2)⟩

theorem ofNode?_mapping (known : List String) (members : List (String × Json))
    (distinct : (members.map Prod.fst).Nodup) :
    ofNode? known (.mapping none (members.map entryOf)) = some (ofMembers members) := by
  have read : Decoder.members (.mapping none (members.map entryOf)) =
      some (members.map fun member => (member.1,scalarNode member.2)) := by
    rw [Decoder.members]
    clear distinct
    induction members with
    | nil => rfl
    | cons member rest ih =>
      rw [List.map_cons,List.mapM_cons,ih]
      rfl
  have names : (((members.map fun member => (member.1,scalarNode member.2)).map
      Prod.fst).filter known.contains).Nodup := by
    rw [List.map_map]
    exact distinct.filter _
  rw [ofNode?,read]
  simp only [Option.bind_eq_bind,Option.bind_some,if_pos names]
  rfl

theorem get_missing {α : Type} (decoder : Decoder α) {members : List (String × Json)} {name : String}
    (absent : α) (missing : members.lookup name = none) :
    (ofMembers members).get name decoder absent = some absent := by
  rw [get,ofMembers,Json.lookup_map,missing]
  rfl

end Record

theorem Decoder.Undoes.get {α : Type} {decoder : Decoder α} {encode : α → Json}
    (undoes : decoder.Undoes encode) {members : List (String × Json)} {name : String} (absent a : α)
    (found : members.lookup name = some (encode a)) :
    (Record.ofMembers members).get name decoder absent = some a := by
  rw [Record.get,Record.ofMembers,Json.lookup_map,found]
  exact undoes a

end SoloMining.Yaml
