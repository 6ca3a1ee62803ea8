import SoloMining.Json.Document
import SoloMining.Json.Printer
import SoloMining.Text.Quoted

/-! Reading domain values from JSON documents. Faults come in the order of the document: what is
met first is reported first, and text behind the first fault is not looked at. -/
namespace SoloMining.Json

inductive Found
  | null
  | bool (b : Bool)
  | number (n : Number)
  | string (s : String)
  | sequence
  | map

def Found.message : Found → String
  | .null => "null"
  | .bool true => "boolean `true`"
  | .bool false => "boolean `false`"
  | .number (.integer n) => "integer `" ++ String.ofList (writeInt n) ++ "`"
  | .number (.float x) => "floating point `" ++ String.ofList (Decimal.writeFloat x) ++ "`"
  | .string s => "string " ++ Text.quoted s
  | .sequence => "sequence"
  | .map => "map"

inductive Fault
  | malformed
  | wrongType (found : Found) (expected : String)
  | outOfRange (found : Found) (expected : String)
  | wrongLength (length : Nat) (expected : String)
  | missingField (name : String)
  | duplicateField (name : String)
  | unknownVariant (name : String) (known : List String)

def variantList : List String → String
  | [] => "there are no variants"
  | [a] => "expected `" ++ a ++ "`"
  | [a, b] => "expected `" ++ a ++ "` or `" ++ b ++ "`"
  | names => "expected one of " ++ ", ".intercalate (names.map fun n => "`" ++ n ++ "`")

def Fault.message : Fault → String
  | .malformed => ""
  | .wrongType found expected => "invalid type: " ++ found.message ++ ", expected " ++ expected
  | .outOfRange found expected => "invalid value: " ++ found.message ++ ", expected " ++ expected
  | .wrongLength length expected =>
    "invalid length " ++ toString length ++ ", expected " ++ expected
  | .missingField name => "missing field `" ++ name ++ "`"
  | .duplicateField name => "duplicate field `" ++ name ++ "`"
  | .unknownVariant name known => "unknown variant `" ++ name ++ "`, " ++ variantList known

/-- Where a document comes from. Only text limits the nesting, and only text can go on behind the
end of a value. -/
inductive Source
  | value
  | text (depth : Nat)

def Source.enter : Source → Option Source
  | .value => some .value
  | .text 0 => none
  | .text (depth + 1) => some (.text depth)

abbrev Decoder (α : Type) := Source → Document → Except Fault α

namespace Decoder

def mismatch (expected : String) : Document → Fault
  | .malformed => .malformed
  | .null => .wrongType .null expected
  | .bool b => .wrongType (.bool b) expected
  | .number none => .malformed
  | .number (some n) => .wrongType (.number n) expected
  | .string none => .malformed
  | .string (some s) => .wrongType (.string s) expected
  | .array _ => .wrongType .sequence expected
  | .object _ => .wrongType .map expected

def integer (low high : Int) (expected : String) : Decoder Int
  | _, .number (some (.integer n)) =>
    if low ≤ n ∧ n < high then .ok n else .error (.outOfRange (.number (.integer n)) expected)
  | _, doc => .error (mismatch expected doc)

def uint16 : Decoder UInt16 := fun source doc =>
  (integer 0 UInt16.size "u16" source doc).map fun n => UInt16.ofNat n.toNat

def uint32 : Decoder UInt32 := fun source doc =>
  (integer 0 UInt32.size "u32" source doc).map fun n => UInt32.ofNat n.toNat

def uint64 : Decoder UInt64 := fun source doc =>
  (integer 0 UInt64.size "u64" source doc).map fun n => UInt64.ofNat n.toNat

def int32 : Decoder Int32 := fun source doc =>
  (integer Int32.minValue.toInt (Int32.maxValue.toInt + 1) "i32" source doc).map Int32.ofInt

def bool : Decoder Bool
  | _, .bool b => .ok b
  | _, doc => .error (mismatch "a boolean" doc)

def textOf (expected : String) : Decoder String
  | _, .string (some s) => .ok s
  | _, doc => .error (mismatch expected doc)

def text : Decoder String := textOf "a string"

def optional {α : Type} (decoder : Decoder α) : Decoder (Option α)
  | _, .null => .ok none
  | source, doc => (decoder source doc).map some

def listItems {α : Type} (decoder : Decoder α) (source : Source) :
    List Document → Except Fault (List α)
  | [] => .ok []
  | item :: rest => do
    let a ← decoder source item
    let as ← listItems decoder source rest
    pure (a :: as)

def list {α : Type} (decoder : Decoder α) : Decoder (List α)
  | source, .array items =>
    match source.enter with
    | some inner => listItems decoder inner items
    | none => .error .malformed
  | _, doc => .error (mismatch "a sequence" doc)

def any : Decoder Json
  | source, doc =>
    let depth := match source with
      | .value => doc.nesting
      | .text depth => depth
    match doc.toJson? depth with
    | some j => .ok j
    | none => .error .malformed

def variant {α : Type} (variants : List (String × α)) (name : String) : Except Fault α :=
  match variants.lookup name with
  | some a => .ok a
  | none => .error (.unknownVariant name (variants.map Prod.fst))

def unit : Decoder Unit
  | _, .null => .ok ()
  | _, doc => .error (mismatch "unit" doc)

def choice {α : Type} (variants : List (String × α)) : Decoder α
  | _, .string (some name) => variant variants name
  | .value, .object [(some name, doc)] => do
    let a ← variant variants name
    unit .value doc
    pure a
  | .value, .object _ => .error (.outOfRange .map "map with a single key")
  | .value, doc => .error (mismatch "string or map" doc)
  | .text (depth + 1), .object ((some name, doc) :: rest) => do
    let a ← variant variants name
    unit (.text depth) doc
    if rest.isEmpty then pure a else .error .malformed
  | .text _, _ => .error .malformed

end Decoder

def decodeValue {α : Type} (decoder : Decoder α) (j : Json) : Except Fault α :=
  decoder .value j.toDocument

def decodeText {α : Type} (decoder : Decoder α) (s : String) : Except Fault α := do
  let (doc, ended) := Document.ofText s
  let a ← decoder (.text maxDepth) doc
  if ended then pure a else .error .malformed

end SoloMining.Json
