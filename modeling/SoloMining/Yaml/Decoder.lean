import SoloMining.Yaml.Node

/-! Reading domain values from YAML nodes. Numbers, truth values and nothing at all are told by how
a plain scalar is spelt; a text may be spelt in any way. -/
namespace SoloMining.Yaml

abbrev Decoder (α : Type) := Node → Option α

namespace Decoder

def coreTag (name : String) : String := "tag:yaml.org,2002:" ++ name

def text : Decoder String
  | .scalar _ _ s => some s
  | _ => none

/-- A scalar whose spelling counts: a plain one, or a literal block with the tag of its type. -/
def spelling (typeName : String) : Decoder (List Char)
  | .scalar .plain _ s => some s.toList
  | .scalar .literal (some tag) s => if tag == coreTag typeName then some s.toList else none
  | _ => none

def bool (n : Node) : Option Bool := do
  let cs ← spelling "bool" n
  let s := String.ofList cs
  if ["true", "True", "TRUE"].contains s then some true
  else if ["false", "False", "FALSE"].contains s then some false
  else none

def digits? (radix bound : Nat) (cs : List Char) : Option Nat :=
  if cs.isEmpty then none else (Text.readDigits radix bound 0 cs).toOption

/-- Decimal digits; zeros in front of other digits make a text of them. -/
def decimal? (bound : Nat) : List Char → Option Nat
  | '0' :: c :: rest => if (c :: rest).all Char.isDigit then none else digits? 10 bound ('0' :: c :: rest)
  | cs => digits? 10 bound cs

def natural? (bound : Nat) (cs : List Char) : Option Nat :=
  let unsigned := match cs with
    | '+' :: rest => rest
    | _ => cs
  match unsigned with
  | '0' :: 'x' :: rest => digits? 16 bound rest
  | '0' :: 'o' :: rest => digits? 8 bound rest
  | '0' :: 'b' :: rest => digits? 2 bound rest
  | _ => decimal? bound unsigned

def natural (bound : Nat) (n : Node) : Option Nat := (spelling "int" n).bind (natural? bound)

def uint16 (n : Node) : Option UInt16 := (natural UInt16.size n).map UInt16.ofNat

def uint32 (n : Node) : Option UInt32 := (natural UInt32.size n).map UInt32.ofNat

def uint64 (n : Node) : Option UInt64 := (natural UInt64.size n).map UInt64.ofNat

def isNullText (s : String) : Bool := ["null", "Null", "NULL", "~"].contains s

def isNull : Node → Bool
  | .scalar .plain none s => s.isEmpty || isNullText s
  | .scalar .plain (some tag) s => tag == coreTag "null" && isNullText s
  | _ => false

/-- Nothing, or a value. What is tagged as nothing has to be spelt so. -/
def optional {α : Type} (decoder : Decoder α) : Decoder (Option α)
  | .scalar .plain (some tag) s =>
    if tag == coreTag "null" then if isNullText s then some none else none
    else (decoder (.scalar .plain (some tag) s)).map some
  | n => if isNull n then some none else (decoder n).map some

def localTag? (tag : Option String) : Option String :=
  match tag.map String.toList with
  | some ('!' :: c :: rest) => some (String.ofList (c :: rest))
  | _ => none

def choice {α : Type} (variants : List (String × α)) : Decoder α
  | .scalar style tag s =>
    match localTag? tag with
    | some name => if isNull (.scalar style none s) then variants.lookup name else none
    | none => variants.lookup s
  | _ => none

def members : Node → Option (List (String × Node))
  | .mapping _ entries => entries.mapM fun (key, value) => (text key).map fun name => (name, value)
  | .scalar .plain _ "" => some []
  | _ => none

end Decoder

/-- A record: none of the known members stands twice, and unknown ones are skipped. -/
structure Record where
  members : List (String × Node)

namespace Record

def ofNode? (known : List String) (n : Node) : Option Record := do
  let members ← Decoder.members n
  let names := (members.map Prod.fst).filter known.contains
  if names.Nodup then some ⟨members⟩ else none

def get {α : Type} (record : Record) (name : String) (decoder : Decoder α) (absent : α) : Option α :=
  match record.members.lookup name with
  | some n => decoder n
  | none => some absent

end Record

end SoloMining.Yaml
