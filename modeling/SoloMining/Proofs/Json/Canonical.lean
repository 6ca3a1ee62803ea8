import SoloMining.Json.Document
import SoloMining.Proofs.Json.Members
import SoloMining.Proofs.Json.Printer

/-! Reading a written value gives the value back, with the members of its objects in order. -/
namespace SoloMining.Json

mutual

def canonical : Json → Json
  | .array items => .array (canonicalItems items)
  | .object members => .ofMembers (canonicalMembers members)
  | j => j

def canonicalItems : List Json → List Json
  | [] => []
  | item :: rest => canonical item :: canonicalItems rest

def canonicalMembers : List (String × Json) → List (String × Json)
  | [] => []
  | (key,value) :: rest => (key,canonical value) :: canonicalMembers rest

end

theorem canonicalItems_eq_map (items : List Json) : canonicalItems items = items.map canonical := by
  induction items with
  | nil => rfl
  | cons item rest ih => rw [canonicalItems,ih,List.map_cons]

theorem canonicalMembers_eq_map (members : List (String × Json)) :
    canonicalMembers members = members.map fun member => (member.1,member.2.canonical) := by
  induction members with
  | nil => rfl
  | cons member rest ih => rw [canonicalMembers,ih,List.map_cons]

theorem canonicalMembers_eq_self (members : List (String × Json))
    (each : ∀ member ∈ members, member.2.canonical = member.2) :
    canonicalMembers members = members := by
  rw [canonicalMembers_eq_map]
  conv_rhs => rw [← List.map_id members]
  apply List.map_congr_left
  intro member present
  exact Prod.ext rfl (each member present)

/-- An object made of members that are canonical already. -/
theorem canonical_ofMembers (members : List (String × Json))
    (each : ∀ member ∈ members, member.2.canonical = member.2) :
    (ofMembers members).canonical = ofMembers members := by
  have kept := canonicalMembers_eq_self (arranged members) fun member present =>
    each member (mem_arranged members member present)
  rw [ofMembers_eq,canonical,kept,ofMembers_eq,
    arranged_eq_self _ (arranged_ascending members)]

theorem Writable.ofMembers {depth : Nat} {members : List (String × Json)}
    (each : ∀ member ∈ members, Writable depth member.2) :
    Writable (depth + 1) (ofMembers members) := by
  apply Writable.object
  intro member present
  exact each member (mem_arranged members member present)

theorem itemsToJson?_eq (depth : Nat) (items : List Json)
    (each : ∀ item ∈ items, item.toDocument.toJson? depth = some item.canonical) :
    Document.itemsToJson? depth (itemsToDocument items) = some (canonicalItems items) := by
  induction items with
  | nil => rfl
  | cons item rest ih =>
    obtain ⟨first,later⟩ := List.forall_mem_cons.mp each
    simp only [itemsToDocument,Document.itemsToJson?,first,ih later,Option.bind_eq_bind,
      Option.bind_some,canonicalItems]

theorem membersToJson?_eq (depth : Nat) (members : List (String × Json))
    (each : ∀ member ∈ members,
      member.2.toDocument.toJson? depth = some member.2.canonical) :
    Document.membersToJson? depth (membersToDocument members) =
      some (canonicalMembers members) := by
  induction members with
  | nil => rfl
  | cons member rest ih =>
    obtain ⟨first,later⟩ := List.forall_mem_cons.mp each
    simp only [membersToDocument,Document.membersToJson?,first,ih later,Option.bind_eq_bind,
      Option.bind_some,canonicalMembers]

theorem Writable.toJson? {depth : Nat} {j : Json} (writable : Writable depth j) :
    j.toDocument.toJson? depth = some j.canonical := by
  induction writable with
  | null | bool | integer | string => simp [toDocument,Document.toJson?,canonical]
  | array depth items each ih =>
    rw [toDocument,Document.toJson?,itemsToJson?_eq depth items ih]
    rfl
  | object depth members each ih =>
    rw [toDocument,Document.toJson?,membersToJson?_eq depth members ih]
    rfl

theorem parse?_render (j : Json) (writable : Writable maxDepth j) :
    parse? j.render = some j.canonical := by
  rw [parse?,writable.ofText_render]
  exact writable.toJson?

def Flat : Json → Prop
  | .array _ | .object _ => False
  | _ => True

/-- Only containers have anything to be arranged. -/
theorem eq_of_canonical_flat (j value : Json) (flat : value.Flat) (same : j.canonical = value) :
    j = value := by
  subst same
  cases j with
  | null | bool | number | string => rfl
  | array | object => cases flat

structure Faithful (depth : Nat) (j : Json) : Prop where
  writable : Writable depth j
  canonical : j.canonical = j

namespace Faithful

variable {depth : Nat}

theorem null : Faithful depth .null := ⟨.null depth,rfl⟩

theorem bool (b : Bool) : Faithful depth (.bool b) := ⟨.bool depth b,rfl⟩

theorem string (s : String) : Faithful depth (.string s) := ⟨.string depth s,rfl⟩

theorem ofInt (n : Int) (low : -2 ^ 63 ≤ n) (high : n < 2 ^ 64) : Faithful depth (.ofInt n) :=
  ⟨.integer depth n low high,rfl⟩

theorem ofNat (n : Nat) (fits : n < 2 ^ 64) : Faithful depth (.ofNat n) :=
  ofInt n (by omega) (by omega)

theorem ofOption {α : Type} {encode : α → Json} (each : ∀ a, Faithful depth (encode a))
    (value : Option α) : Faithful depth (.ofOption encode value) := by
  cases value with
  | none => exact null
  | some a => exact each a

theorem array {items : List Json} (each : ∀ item ∈ items, Faithful depth item) :
    Faithful (depth + 1) (.array items) := by
  refine ⟨.array depth items fun item present => (each item present).writable,?_⟩
  rw [Json.canonical,canonicalItems_eq_map]
  conv_rhs => rw [← List.map_id items]
  congr 1
  apply List.map_congr_left
  intro item present
  exact (each item present).canonical

theorem ofMembers {members : List (String × Json)}
    (each : ∀ member ∈ members, Faithful depth member.2) :
    Faithful (depth + 1) (ofMembers members) :=
  ⟨.ofMembers fun member present => (each member present).writable,
    canonical_ofMembers members fun member present => (each member present).canonical⟩

theorem parse?_render {j : Json} (faithful : Faithful maxDepth j) : parse? j.render = some j := by
  rw [Json.parse?_render j faithful.writable,faithful.canonical]

end Faithful

def keys : Json → List String
  | .object members => members.map Prod.fst
  | _ => []

/-- The body is the value, with the members of its objects in any order. -/
structure Spells (body value : Json) : Prop where
  writable : Writable maxDepth body
  distinct : body.keys.Nodup
  same : body.canonical = value

theorem Faithful.spells {members : List (String × Json)}
    (faithful : Faithful maxDepth (.ofMembers members)) :
    Spells (.ofMembers members) (.ofMembers members) :=
  ⟨faithful.writable,(arranged_ascending members).distinct,faithful.canonical⟩

/-- The members of an object may stand in the order in which they are declared. -/
theorem Spells.declared {members : List (String × Json)} (distinct : (members.map Prod.fst).Nodup)
    (each : ∀ member ∈ members, Faithful 126 member.2) :
    Spells (.object members) (.ofMembers members) := by
  have kept := canonicalMembers_eq_self members fun member present => (each member present).canonical
  refine ⟨.object 126 members fun member present => (each member present).writable,distinct,?_⟩
  rw [Json.canonical,kept]

/-- The text is a document of the value, however it is laid out. -/
def Tells (text : String) (value : Json) : Prop :=
  ∃ body, Spells body value ∧ Document.ofText text = (body.toDocument,true)

theorem Spells.tells_render {body value : Json} (spells : Spells body value) :
    Tells body.render value :=
  ⟨body,spells,spells.writable.ofText_render⟩

/-- A body for an object is an object with a member for each of the keys and no other. -/
theorem Spells.object {body : Json} {members : List (String × Json)}
    (spells : Spells body (.ofMembers members)) :
    ∃ own, body = .object own ∧ (own.map Prod.fst).Nodup ∧
      ∀ name, (own.lookup name).map canonical = members.reverse.lookup name := by
  obtain ⟨_,distinct,same⟩ := spells
  cases body with
  | object own =>
    refine ⟨own,rfl,distinct,?_⟩
    intro name
    have arrangedSame : arranged (canonicalMembers own) = arranged members := by
      rw [canonical,ofMembers_eq,ofMembers_eq] at same
      exact Json.object.inj same
    rw [← lookup_arranged,← arrangedSame,lookup_arranged,canonicalMembers_eq_map,
      ← List.map_reverse,lookup_map,lookup_reverse own distinct]
  | null | bool | number | string | array => cases same

theorem Spells.keys_subset {body : Json} {members : List (String × Json)}
    (spells : Spells body (.ofMembers members)) : body.keys ⊆ members.map Prod.fst := by
  obtain ⟨own,rfl,distinct,found⟩ := spells.object
  intro key present
  obtain ⟨member,inside,rfl⟩ := List.mem_map.mp present
  have told := found member.1
  rw [lookup_of_mem own distinct _ _ inside] at told
  have listed := List.mem_reverse.mp (mem_of_lookup _ _ _ told.symm)
  exact List.mem_map.mpr ⟨_,listed,rfl⟩

end SoloMining.Json
