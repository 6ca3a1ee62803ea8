import SoloMining.Json.Decoder
import SoloMining.Proofs.Fallible
import SoloMining.Proofs.Json.Canonical

/-! Decoders that undo the writing of a value: of numbers of a fixed width, of texts, and through them
of optional values and of lists. -/
namespace SoloMining.Json

namespace Decoder

variable {α : Type}

def Undoes (decoder : Decoder α) (encode : α → Json) (source : Source) : Prop :=
  ∀ a, decoder source (encode a).toDocument = .ok a

theorem text_undoes (expected : String) (source : Source) :
    (textOf expected).Undoes .string source :=
  fun _ => rfl

theorem bool_undoes (source : Source) : bool.Undoes .bool source := fun _ => rfl

theorem integer_ok (low high n : Int) (expected : String) (source : Source) (above : low ≤ n)
    (below : n < high) :
    integer low high expected source (toDocument (.number (.integer n))) = .ok n := by
  rw [toDocument,integer,if_pos ⟨above,below⟩]

theorem uint64_undoes (source : Source) : uint64.Undoes (fun n => .ofNat n.toNat) source := by
  intro n
  have below : (n.toNat : Int) < UInt64.size := Int.ofNat_lt.mpr n.toNat_lt_size
  have read := integer_ok 0 UInt64.size n.toNat "u64" source (Int.natCast_nonneg _) below
  change uint64 source (toDocument (.number (.integer n.toNat))) = .ok n
  rw [uint64,read]
  simp only [Except.map,Int.toNat_natCast,UInt64.ofNat_toNat]

theorem uint32_undoes (source : Source) : uint32.Undoes (fun n => .ofNat n.toNat) source := by
  intro n
  have below : (n.toNat : Int) < UInt32.size := Int.ofNat_lt.mpr n.toNat_lt_size
  have read := integer_ok 0 UInt32.size n.toNat "u32" source (Int.natCast_nonneg _) below
  change uint32 source (toDocument (.number (.integer n.toNat))) = .ok n
  rw [uint32,read]
  simp only [Except.map,Int.toNat_natCast,UInt32.ofNat_toNat]

theorem uint16_undoes (source : Source) : uint16.Undoes (fun n => .ofNat n.toNat) source := by
  intro n
  have below : (n.toNat : Int) < UInt16.size := Int.ofNat_lt.mpr n.toNat_lt_size
  have read := integer_ok 0 UInt16.size n.toNat "u16" source (Int.natCast_nonneg _) below
  change uint16 source (toDocument (.number (.integer n.toNat))) = .ok n
  rw [uint16,read]
  simp only [Except.map,Int.toNat_natCast,UInt16.ofNat_toNat]

theorem int32_undoes (source : Source) : int32.Undoes (fun n => .ofInt n.toInt) source := by
  intro n
  have read := integer_ok Int32.minValue.toInt (Int32.maxValue.toInt + 1) n.toInt "i32" source
    n.minValue_le_toInt (Int.lt_add_one_of_le n.toInt_le)
  simp only [int32,ofInt,read,Except.map,Int32.ofInt_toInt]

/-- Names that are told apart are read back. -/
theorem choice_undoes (variants : List (String × α)) (name : α → String) (source : Source)
    (known : ∀ a, variants.lookup (name a) = some a) :
    (choice variants).Undoes (fun a => .string (name a)) source := by
  intro a
  have chosen : variant variants (name a) = .ok a := by rw [variant,known a]
  cases source <;> exact chosen

/-- No value is written as null, so null is left to stand for an absent one. -/
theorem Undoes.optional {decoder : Decoder α} {encode : α → Json} {source : Source}
    (undoes : decoder.Undoes encode source) (present : ∀ a, (encode a).toDocument ≠ .null) :
    decoder.optional.Undoes (ofOption encode) source := by
  intro value
  cases value with
  | none => rfl
  | some a =>
    have read := undoes a
    rw [ofOption]
    unfold Decoder.optional
    split
    next null => exact absurd null (present a)
    next => rw [read]; rfl

theorem Undoes.list {decoder : Decoder α} {encode : α → Json} {source inner : Source}
    (undoes : decoder.Undoes encode inner) (entered : source.enter = some inner) :
    decoder.list.Undoes (fun items => .array (items.map encode)) source := by
  intro items
  simp only [toDocument,Decoder.list,entered]
  induction items with
  | nil => rfl
  | cons item rest ih =>
    have read := undoes item
    simp only [List.map_cons,itemsToDocument,listItems,read,ih]
    rfl

theorem any_writable {depth : Nat} {j : Json} (writable : Writable depth j) :
    any (.text depth) j.toDocument = .ok j.canonical := by
  simp only [any,writable.toJson?]

end Decoder

theorem decodeText_eq_ok {α : Type} (decoder : Decoder α) (text : String) (a : α) :
    decodeText decoder text = .ok a ↔
      decoder (.text maxDepth) (Document.ofText text).1 = .ok a ∧
        (Document.ofText text).2 = true := by
  simp only [decodeText,bind_eq_ok]
  cases whole : (Document.ofText text).2 with
  | true => simp [pure_eq_ok]
  | false => simp

/-- From its text a value is decoded like its document. -/
theorem Writable.decodeText {α : Type} {depth : Nat} {j : Json} (writable : Writable depth j)
    (decoder : Decoder α) (a : α) (read : decoder (.text maxDepth) j.toDocument = .ok a) :
    decodeText decoder j.render = .ok a := by
  rw [decodeText_eq_ok,writable.ofText_render]
  exact ⟨read,rfl⟩

end SoloMining.Json
