import SoloMining.Json.Decoder

/-! Records in JSON: an object with named members in any order, or an array of the fields in their
declared order. Unknown members are skipped. -/
namespace SoloMining.Json

/-- What the traversal of a record needs to know of a field. A defaulted field may be missing at
the end of an array. -/
structure Field where
  name : String
  aliases : List String
  check : Decoder Unit
  defaulted : Bool

def Field.answersTo (field : Field) (key : String) : Bool :=
  key == field.name || field.aliases.contains key

abbrev Slots := List (String × Document)

def memberSlots (fields : List Field) (source : Source) :
    Slots → List (Option String × Document) → Except Fault Slots
  | slots, [] => .ok slots
  | _, (none, _) :: _ => .error .malformed
  | slots, (some key, doc) :: rest =>
    match fields.find? (·.answersTo key) with
    | none => if doc.wellFormed then memberSlots fields source slots rest else .error .malformed
    | some field =>
      if (slots.lookup field.name).isSome then .error (.duplicateField field.name)
      else do
        field.check source doc
        memberSlots fields source ((field.name, doc) :: slots) rest

/-- Deals the items of an array out to the fields; `index` counts the fields already served. -/
def itemSlots (record : String) (source : Source) (index : Nat) :
    List Field → List Document → Except Fault Slots
  | [], [] => .ok []
  | [], rest =>
    match source with
    | .value => .error (.wrongLength (index + rest.length) "fewer elements in array")
    | .text _ => .error .malformed
  | field :: fields, doc :: rest => do
    field.check source doc
    let slots ← itemSlots record source (index + 1) fields rest
    pure ((field.name, doc) :: slots)
  | field :: fields, [] =>
    if field.defaulted then itemSlots record source (index + 1) fields []
    else .error (.wrongLength index
      ("struct " ++ record ++ " with " ++ toString (index + fields.length + 1) ++ " elements"))

def recordSlots (record : String) (fields : List Field) : Decoder (Source × Slots)
  | source, .object members =>
    match source.enter with
    | some inner => (memberSlots fields inner [] members).map fun slots => (inner, slots)
    | none => .error .malformed
  | source, .array items =>
    match source.enter with
    | some inner => (itemSlots record inner 0 fields items).map fun slots => (inner, slots)
    | none => .error .malformed
  | _, doc => .error (Decoder.mismatch ("struct " ++ record) doc)

structure RecordReader (α : Type) where
  fields : List Field
  build : Source → Slots → Except Fault α

namespace RecordReader

def start {α : Type} (make : α) : RecordReader α := ⟨[], fun _ _ => .ok make⟩

def add {α β : Type} (reader : RecordReader (α → β)) (name : String) (aliases : List String)
    (decoder : Decoder α) (absent : Except Fault α) (defaulted : Bool) : RecordReader β where
  fields := reader.fields ++ [⟨name, aliases, fun s d => (decoder s d).map fun _ => (), defaulted⟩]
  build source slots := do
    let make ← reader.build source slots
    match slots.lookup name with
    | some doc => (decoder source doc).map make
    | none => absent.map make

def required {α β : Type} (reader : RecordReader (α → β)) (name : String) (decoder : Decoder α) :
    RecordReader β :=
  reader.add name [] decoder (.error (.missingField name)) false

def defaulted {α β : Type} (reader : RecordReader (α → β)) (name : String) (decoder : Decoder α)
    (value : α) (aliases : List String := []) : RecordReader β :=
  reader.add name aliases decoder (.ok value) true

/-- A field that may be missing from an object, but not from an array. -/
def optional {α β : Type} (reader : RecordReader (Option α → β)) (name : String)
    (decoder : Decoder α) : RecordReader β :=
  reader.add name [] decoder.optional (.ok none) false

def decoder {α : Type} (reader : RecordReader α) (record : String) : Decoder α :=
  fun source doc => do
    let (inner, slots) ← recordSlots record reader.fields source doc
    reader.build inner slots

end RecordReader

end SoloMining.Json
