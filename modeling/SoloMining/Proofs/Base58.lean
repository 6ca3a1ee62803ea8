import SoloMining.Base58
import SoloMining.Proofs.Fallible
import Mathlib.Data.List.GetD
import Mathlib.Data.Nat.Digits.Lemmas

/-! Base58Check text. A text spells a byte string if it begins with as many zero digits and is the
same number, and then each of the two is the only one for the other. So a text reads back exactly if
it is the written form of what it reads as. -/
namespace SoloMining.Base58

def zeros (ds : List Nat) : Nat := (ds.takeWhile (· == 0)).length

/-- Strings of digits, each in its own base, that are the same number behind as many zeros. -/
structure Agree (base other : Nat) (ds es : List Nat) : Prop where
  zeros : zeros ds = zeros es
  value : ofDigits base ds = ofDigits other es

theorem Agree.symm {base other : Nat} {ds es : List Nat} (agree : Agree base other ds es) :
    Agree other base es ds := ⟨agree.zeros.symm,agree.value.symm⟩

section Positional

variable {base other : Nat} (valid : 2 ≤ base)

theorem ofDigits_eq (base : Nat) (ds : List Nat) :
    ofDigits base ds = Nat.ofDigits base ds.reverse := by
  induction ds using List.reverseRecOn with
  | nil => rfl
  | append_singleton ds d ih =>
    rw [List.reverse_append,List.reverse_singleton,List.singleton_append,Nat.ofDigits_cons,← ih]
    simp only [ofDigits,List.foldl_append,List.foldl_cons,List.foldl_nil]
    rw [Nat.add_comm,Nat.mul_comm]

theorem digitsAux_eq (n : Nat) (acc : List Nat) :
    digitsAux base valid n acc = (Nat.digits base n).reverse ++ acc := by
  fun_induction digitsAux base valid n acc with
  | case1 acc => simp
  | case2 n acc positive ih =>
    rw [ih,Nat.digits_def' valid (Nat.pos_of_ne_zero positive)]
    simp

theorem digits_eq (n : Nat) : digits base valid n = (Nat.digits base n).reverse := by
  rw [digits,digitsAux_eq,List.append_nil]

theorem digits_lt (n d : Nat) (member : d ∈ digits base valid n) : d < base := by
  rw [digits_eq,List.mem_reverse] at member
  exact Nat.digits_lt_base valid member

theorem head_digits (n : Nat) : (digits base valid n).head? ≠ some 0 := by
  rw [digits_eq,List.head?_reverse]
  by_cases zero : n = 0
  · simp [zero]
  · have nonempty : Nat.digits base n ≠ [] := Nat.digits_ne_nil_iff_ne_zero.mpr zero
    rw [List.getLast?_eq_some_getLast nonempty,Ne,Option.some.injEq]
    exact Nat.getLast_digit_ne_zero base zero

theorem ofDigits_digits (n : Nat) : ofDigits base (digits base valid n) = n := by
  rw [ofDigits_eq,digits_eq,List.reverse_reverse,Nat.ofDigits_digits]

theorem digits_ofDigits (ds : List Nat) (small : ∀ d ∈ ds, d < base) (lead : ds.head? ≠ some 0) :
    digits base valid (ofDigits base ds) = ds := by
  rw [digits_eq,ofDigits_eq,Nat.digits_ofDigits base valid,List.reverse_reverse]
  · intro d member
    exact small d (List.mem_reverse.mp member)
  · intro nonempty zero
    apply lead
    rw [← List.getLast?_reverse,List.getLast?_eq_some_getLast nonempty,zero]

theorem ofDigits_zeros (count : Nat) (ds : List Nat) :
    ofDigits base (List.replicate count 0 ++ ds) = ofDigits base ds := by
  rw [ofDigits_eq,ofDigits_eq,List.reverse_append,List.reverse_replicate,
    Nat.ofDigits_append_replicate_zero]

theorem zeros_append (count : Nat) (ds : List Nat) (lead : ds.head? ≠ some 0) :
    zeros (List.replicate count 0 ++ ds) = count := by
  have stop : ds.takeWhile (· == 0) = [] := by
    cases ds with
    | nil => rfl
    | cons d rest =>
      have positive : d ≠ 0 := by simpa using lead
      simp [positive]
  simp [zeros,stop]

theorem exists_rest (ds : List Nat) :
    ∃ rest, rest.head? ≠ some 0 ∧ ds = List.replicate (zeros ds) 0 ++ rest := by
  induction ds with
  | nil => exact ⟨[],by simp,rfl⟩
  | cons d ds ih =>
    by_cases zero : d = 0
    · obtain ⟨rest,lead,whole⟩ := ih
      have longer : zeros (d :: ds) = zeros ds + 1 := by simp [zeros,zero]
      refine ⟨rest,lead,?_⟩
      rw [longer,List.replicate_succ,List.cons_append,← whole,zero]
    · have none : zeros (d :: ds) = 0 := by simp [zeros,zero]
      exact ⟨d :: ds,by simpa using zero,by simp [none]⟩

def recast (other : Nat) (es : List Nat) : List Nat :=
  List.replicate (zeros es) 0 ++ digits base valid (ofDigits other es)

theorem recast_lt (es : List Nat) (d : Nat) (member : d ∈ recast valid other es) : d < base := by
  rcases List.mem_append.mp member with zero | digit
  · rw [List.eq_of_mem_replicate zero]
    omega
  · exact digits_lt valid _ d digit

theorem agree_iff (ds es : List Nat) (small : ∀ d ∈ ds, d < base) :
    Agree base other ds es ↔ ds = recast valid other es := by
  constructor
  · intro agree
    obtain ⟨rest,lead,whole⟩ := exists_rest ds
    have below : ∀ d ∈ rest, d < base := by
      intro d member
      apply small d
      rw [whole]
      exact List.mem_append_right _ member
    have value : ofDigits base ds = ofDigits base rest := by
      rw [whole,ofDigits_zeros]
    rw [recast,← agree.zeros,← agree.value,value,digits_ofDigits valid rest below lead]
    exact whole
  · rintro rfl
    have lead := head_digits valid (ofDigits other es)
    exact ⟨zeros_append _ _ lead,by rw [recast,ofDigits_zeros,ofDigits_digits]⟩

end Positional

def digitChar (d : Nat) : Char := alphabet.getD d '1'

def Spells (chars : List Char) (bytes : Bytes) : Prop :=
  ∃ ds : List Nat, (∀ d ∈ ds, d < 58) ∧ chars = ds.map digitChar ∧
    Agree 58 256 ds (bytes.map UInt8.toNat)

def Encodes (text : String) (payload : Bytes) : Prop :=
  Spells text.toList (payload ++ checksum payload)

theorem digitChar_injective (d e : Nat) (dSmall : d < 58) (eSmall : e < 58)
    (same : digitChar d = digitChar e) : d = e := by
  have distinct : alphabet.Nodup := by decide
  have size : alphabet.length = 58 := by decide
  rw [digitChar,digitChar,List.getD_eq_getElem _ _ (by omega),List.getD_eq_getElem _ _ (by omega)]
    at same
  exact (distinct.getElem_inj_iff).mp same

theorem digitValue?_eq_some (c : Char) (d : Nat) :
    digitValue? c = some d ↔ d < 58 ∧ c = digitChar d := by
  have size : alphabet.length = 58 := by decide
  have found (e : Nat) (inside : e < alphabet.length) : alphabet[e] = digitChar e := by
    rw [digitChar,List.getD_eq_getElem _ _ inside]
  simp only [digitValue?,List.findIdx?_eq_some_iff_getElem,beq_iff_eq,found]
  constructor
  · rintro ⟨inside,same,_⟩
    exact ⟨by omega,same.symm⟩
  · rintro ⟨inside,rfl⟩
    refine ⟨by omega,rfl,?_⟩
    intro earlier before same
    have equal := digitChar_injective earlier d (by omega) inside same
    omega

theorem readDigits_eq_some (chars : List Char) (ds : List Nat) :
    chars.mapM digitValue? = some ds ↔ (∀ d ∈ ds, d < 58) ∧ chars = ds.map digitChar := by
  induction chars generalizing ds with
  | nil => cases ds <;> simp
  | cons c chars ih =>
    cases ds with
    | nil => simp [List.mapM_cons,Option.bind_eq_some_iff]
    | cons d ds =>
      simp only [List.mapM_cons,Option.bind_eq_bind,Option.bind_eq_some_iff,Option.pure_def,
        Option.some.injEq,List.cons.injEq,List.forall_mem_cons,List.map_cons]
      constructor
      · rintro ⟨first,read,rest,others,rfl,rfl⟩
        obtain ⟨small,same⟩ := (digitValue?_eq_some c first).mp read
        obtain ⟨below,spelt⟩ := (ih rest).mp others
        exact ⟨⟨small,below⟩,same,spelt⟩
      · rintro ⟨⟨small,below⟩,same,spelt⟩
        have read := (digitValue?_eq_some c d).mpr ⟨small,same⟩
        have others := (ih ds).mpr ⟨below,spelt⟩
        exact ⟨d,read,ds,others,rfl,rfl⟩

theorem zeros_text (ds : List Nat) (small : ∀ d ∈ ds, d < 58) :
    ((ds.map digitChar).takeWhile (· == '1')).length = zeros ds := by
  have first : digitChar 0 = '1' := rfl
  induction ds with
  | nil => rfl
  | cons d ds ih =>
    obtain ⟨below,others⟩ := List.forall_mem_cons.mp small
    have rest := ih others
    simp only [zeros] at rest
    by_cases zero : d = 0
    · simp [zeros,zero,first,rest]
    · have apart : digitChar d ≠ '1' := by
        intro same
        exact zero (digitChar_injective d 0 below (by omega) same)
      simp [zeros,zero,apart]

theorem zeros_bytes (bytes : Bytes) :
    (bytes.takeWhile (· == 0)).length = zeros (bytes.map UInt8.toNat) := by
  have same : (fun b : UInt8 => b == 0) = (fun d : Nat => d == 0) ∘ UInt8.toNat := by
    funext b
    rw [Function.comp_apply,Bool.eq_iff_iff,beq_iff_eq,beq_iff_eq,← UInt8.toNat_inj]
    rfl
  rw [zeros,List.takeWhile_map,List.length_map,same]

theorem map_ofNat_eq (ds : List Nat) (small : ∀ d ∈ ds, d < 256) (bytes : Bytes) :
    ds.map UInt8.ofNat = bytes ↔ bytes.map UInt8.toNat = ds := by
  have back : (ds.map UInt8.ofNat).map UInt8.toNat = ds := by
    rw [List.map_map]
    conv_rhs => rw [← List.map_id ds]
    apply List.map_congr_left
    intro d member
    exact UInt8.toNat_ofNat_of_lt (small d member)
  constructor
  · rintro rfl
    exact back
  · intro same
    apply List.map_injective_iff.mpr (fun _ _ => UInt8.toNat_inj.mp)
    rw [back,same]

theorem toNat_lt_256 (bytes : Bytes) (b : Nat) (member : b ∈ bytes.map UInt8.toNat) : b < 256 := by
  obtain ⟨byte,_,rfl⟩ := List.mem_map.mp member
  exact byte.toNat_lt

/-- A text is read as the bytes that it spells. -/
theorem decodeChars_eq_ok (chars : List Char) (bytes : Bytes) :
    decodeChars chars = .ok bytes ↔ Spells chars bytes := by
  rw [decodeChars]
  cases read : chars.mapM digitValue? with
  | none =>
    simp only [reduceCtorEq,false_iff]
    rintro ⟨ds,small,spelt,_⟩
    rw [(readDigits_eq_some chars ds).mpr ⟨small,spelt⟩] at read
    cases read
  | some ds =>
    obtain ⟨small,spelt⟩ := (readDigits_eq_some chars ds).mp read
    have zeroDigits : (chars.takeWhile (· == '1')).length = zeros ds := by
      rw [spelt,zeros_text ds small]
    have written : List.replicate (zeros ds) (0 : UInt8) ++
        (digits 256 (by decide) (ofDigits 58 ds)).map UInt8.ofNat =
          (recast (by decide : 2 ≤ 256) 58 ds).map UInt8.ofNat := by
      rw [recast,List.map_append,List.map_replicate]
      rfl
    have agreeing : Agree 256 58 (bytes.map UInt8.toNat) ds ↔
        bytes.map UInt8.toNat = recast (by decide : 2 ≤ 256) 58 ds :=
      agree_iff _ _ ds (toNat_lt_256 bytes)
    dsimp only
    rw [zeroDigits,written,Except.ok.injEq,map_ofNat_eq _ (recast_lt _ ds),← agreeing]
    constructor
    · intro agree
      exact ⟨ds,small,spelt,agree.symm⟩
    · rintro ⟨es,below,same,agree⟩
      have reread := (readDigits_eq_some chars es).mpr ⟨below,same⟩
      cases Option.some.inj (read.symm.trans reread)
      exact agree.symm

/-- The written form of bytes is the one text that spells them. -/
theorem encodeChars_eq (bytes : Bytes) (chars : List Char) :
    encodeChars bytes = chars ↔ Spells chars bytes := by
  have written : encodeChars bytes =
      (recast (by decide : 2 ≤ 58) 256 (bytes.map UInt8.toNat)).map digitChar := by
    rw [encodeChars,recast,zeros_bytes,List.map_append,List.map_replicate]
    rfl
  rw [written]
  constructor
  · rintro rfl
    have small : ∀ d ∈ recast (by decide : 2 ≤ 58) 256 (bytes.map UInt8.toNat), d < 58 :=
      recast_lt _ _
    exact ⟨_,small,rfl,(agree_iff (by decide) _ _ small).mpr rfl⟩
  · rintro ⟨ds,small,rfl,agree⟩
    rw [← (agree_iff (by decide) ds _ small).mp agree]

theorem length_checksum (payload : Bytes) : (checksum payload).length = 4 := by
  simp [checksum,Bytes32.length_bytes]

theorem decodeCheck_eq_ok (text : String) (payload : Bytes) :
    decodeCheck text = .ok payload ↔ Encodes text payload := by
  rw [decodeCheck,bind_eq_ok]
  simp only [decodeChars_eq_ok]
  constructor
  · rintro ⟨bytes,spells,checked⟩
    split at checked
    next => cases checked
    next enough =>
      split at checked
      next sound =>
        cases checked
        rwa [Encodes,← sound,List.take_append_drop]
      next => cases checked
  · intro spells
    have size := length_checksum payload
    refine ⟨_,spells,?_⟩
    simp [size]

theorem encodes_iff (text : String) (payload : Bytes) :
    Encodes text payload ↔ encodeCheck payload = text := by
  rw [Encodes,← encodeChars_eq,encodeCheck,← String.toList_inj,String.toList_ofList]

end SoloMining.Base58
