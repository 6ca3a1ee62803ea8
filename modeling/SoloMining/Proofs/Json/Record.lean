import SoloMining.Json.Record
import SoloMining.Proofs.Json.Decoder

/-! Reading records from objects. A reader is served by members that carry its own names, each once,
if each of them can be decoded; their order does not matter. -/
namespace SoloMining.Json

/-- Fields without other names get what stands under their names. -/
theorem memberSlots_lookup (fields : List Field) (plain : ∀ field ∈ fields, field.aliases = [])
    (source : Source) (members : List (Option String × Document)) (slots all : Slots)
    (read : memberSlots fields source slots members = .ok all) (name : String)
    (known : name ∈ fields.map Field.name) :
    all.lookup name = (slots.lookup name).or (members.lookup (some name)) := by
  induction members generalizing slots with
  | nil =>
    cases Except.ok.inj read
    simp
  | cons member rest ih =>
    obtain ⟨_ | key,doc⟩ := member
    · simp [memberSlots] at read
    · simp only [memberSlots] at read
      split at read
      next unknown =>
        have other : (name == key) = false := by
          rw [beq_eq_false_iff_ne]
          rintro rfl
          obtain ⟨field,present,rfl⟩ := List.mem_map.mp known
          have unanswered := List.find?_eq_none.mp unknown field present
          simp [Field.answersTo] at unanswered
        split at read
        · rw [ih slots read]
          simp [List.lookup_cons,other]
        · cases read
      next field present =>
        have same : key = field.name := by
          have answers := List.find?_some present
          simpa [Field.answersTo,plain field (List.mem_of_find?_eq_some present)] using answers
        subst same
        split at read
        · cases read
        next fresh =>
          obtain ⟨_,_,more⟩ := (bind_eq_ok _ _ _).mp read
          rw [ih _ more]
          by_cases named : name = field.name
          · subst named
            have empty := Option.not_isSome_iff_eq_none.mp fresh
            simp [empty]
          · simp [List.lookup_cons,beq_eq_false_iff_ne.mpr named]

/-- From an object a reader builds its result of what stands under the names of its fields. -/
theorem RecordReader.decoder_made {α : Type} {reader : RecordReader α}
    (plain : ∀ field ∈ reader.fields, field.aliases = []) {record : String} {source : Source}
    {members : List (Option String × Document)} {result : α}
    (read : reader.decoder record source (.object members) = .ok result) :
    ∃ inner slots, source.enter = some inner ∧ reader.build inner slots = .ok result ∧
      ∀ name ∈ reader.fields.map Field.name,
        slots.lookup name = members.lookup (some name) := by
  obtain ⟨⟨inner,slots⟩,opened,built⟩ := (bind_eq_ok _ _ _).mp read
  simp only [recordSlots] at opened
  split at opened
  next enclosing entered =>
    cases dealt : memberSlots reader.fields enclosing [] members with
    | error fault => simp [dealt,Except.map] at opened
    | ok all =>
      simp only [dealt,Except.map,Except.ok.injEq,Prod.mk.injEq] at opened
      obtain ⟨rfl,rfl⟩ := opened
      exact ⟨_,_,entered,built,memberSlots_lookup _ plain _ members [] _ dealt⟩
  next => cases opened

theorem RecordReader.build_defaulted {α β : Type} (reader : RecordReader (α → β)) (name : String)
    (decoder : Decoder α) (value : α) (source : Source) (slots : Slots) (result : β) :
    (reader.defaulted name decoder value).build source slots = .ok result ↔
      ∃ make given, reader.build source slots = .ok make ∧
        (slots.lookup name).elim (.ok value) (decoder source) = .ok given ∧ make given = result := by
  simp only [defaulted,add,bind_eq_ok]
  cases slots.lookup name with
  | none => simp [Except.map]
  | some doc => cases read : decoder source doc <;> simp [read,Except.map]

def RecordReader.Makes {α : Type} (reader : RecordReader α) (source : Source) (slots : Slots)
    (claim : α → Prop) : Prop :=
  ∀ result, reader.build source slots = .ok result → claim result

theorem RecordReader.makes_start {α : Type} {make : α} {source : Source} {slots : Slots}
    {claim : α → Prop} (holds : claim make) : (start make).Makes source slots claim := by
  intro result built
  cases built
  exact holds

theorem RecordReader.Makes.defaulted {α β : Type} {reader : RecordReader (α → β)} {name : String}
    {decoder : Decoder α} {value : α} {source : Source} {slots : Slots} {claim : β → Prop}
    (makes : reader.Makes source slots fun make => ∀ given,
      (slots.lookup name).elim (.ok value) (decoder source) = .ok given → claim (make given)) :
    (reader.defaulted name decoder value).Makes source slots claim := by
  intro result built
  obtain ⟨make,given,made,read,rfl⟩ := (build_defaulted reader name decoder value _ _ _).mp built
  exact makes make made given read

structure RecordReader.Serves {α : Type} (reader : RecordReader α) (source : Source)
    (find : String → Option Document) (result : α) : Prop where
  checked : ∀ field ∈ reader.fields, ∀ doc, find field.name = some doc →
    field.check source doc = .ok ()
  built : ∀ slots : Slots, (∀ name, slots.lookup name = find name) →
    reader.build source slots = .ok result

theorem RecordReader.serves_start {α : Type} (make : α) (source : Source)
    (find : String → Option Document) : (start make).Serves source find make :=
  ⟨by simp [start],fun _ _ => rfl⟩

theorem RecordReader.Serves.add {α β : Type} {reader : RecordReader (α → β)} {source : Source}
    {find : String → Option Document} {make : α → β} (serves : reader.Serves source find make)
    {name : String} {aliases : List String} {decoder : Decoder α} {absent : Except Fault α}
    {defaulted : Bool} (given : α)
    (read : (find name).elim absent (decoder source) = .ok given) :
    (reader.add name aliases decoder absent defaulted).Serves source find (make given) := by
  constructor
  · intro field member doc found
    cases List.mem_append.mp member with
    | inl earlier => exact serves.checked field earlier doc found
    | inr last =>
      cases List.mem_singleton.mp last
      have found : find name = some doc := found
      rw [found] at read
      have decoded : decoder source doc = .ok given := read
      simp only [decoded]
      rfl
  · intro slots agree
    have made := serves.built slots agree
    simp only [RecordReader.add,bind_eq_ok]
    refine ⟨make,made,?_⟩
    rw [agree name]
    cases found : find name with
    | none =>
      rw [found] at read
      have missing : absent = .ok given := read
      simp only [missing]
      rfl
    | some doc =>
      rw [found] at read
      have decoded : decoder source doc = .ok given := read
      simp only [decoded]
      rfl

def Unambiguous (fields : List Field) : Prop :=
  ∀ field ∈ fields, ∀ other ∈ fields, field.answersTo other.name = true → field.name = other.name

instance (fields : List Field) : Decidable (Unambiguous fields) :=
  inferInstanceAs (Decidable (∀ field ∈ fields, ∀ other ∈ fields,
    field.answersTo other.name = true → field.name = other.name))

structure Addressed (fields : List Field) (members : Slots) : Prop where
  distinct : (members.map Prod.fst).Nodup
  known : ∀ member ∈ members, member.1 ∈ fields.map Field.name

theorem memberSlots_addressed (fields : List Field) (unambiguous : Unambiguous fields)
    (source : Source) (members slots : Slots) (addressed : Addressed fields members)
    (fresh : ∀ member ∈ members, slots.lookup member.1 = none)
    (checked : ∀ field ∈ fields, ∀ doc, (field.name,doc) ∈ members →
      field.check source doc = .ok ()) :
    memberSlots fields source slots (members.map fun member => (some member.1,member.2)) =
      .ok (members.reverse ++ slots) := by
  induction members generalizing slots with
  | nil => rfl
  | cons member rest ih =>
    obtain ⟨key,doc⟩ := member
    obtain ⟨unrepeated,distinct⟩ := List.nodup_cons.mp addressed.distinct
    obtain ⟨known,others⟩ := List.forall_mem_cons.mp addressed.known
    obtain ⟨vacant,unfilled⟩ := List.forall_mem_cons.mp fresh
    have answered : ∃ field, fields.find? (·.answersTo key) = some field ∧ field.name = key := by
      obtain ⟨named,present,same⟩ := List.mem_map.mp known
      have same : named.name = key := same
      have answers : named.answersTo key = true := by simp [Field.answersTo,same]
      cases found : fields.find? (·.answersTo key) with
      | none => exact absurd answers (List.find?_eq_none.mp found named present)
      | some field =>
        have reached := List.find?_some found
        rw [← same] at reached ⊢
        exact ⟨field,rfl,unambiguous field (List.mem_of_find?_eq_some found) named present reached⟩
    obtain ⟨field,found,rfl⟩ := answered
    have empty : ¬ (slots.lookup field.name).isSome = true := by
      have vacant : slots.lookup field.name = none := vacant
      simp [vacant]
    have passes : field.check source doc = .ok () :=
      checked field (List.mem_of_find?_eq_some found) doc List.mem_cons_self
    have next := ih ((field.name,doc) :: slots) ⟨distinct,others⟩ ?_ ?_
    · simp only [List.map_cons,memberSlots,found,empty,passes]
      rw [List.reverse_cons,List.append_assoc]
      exact next
    · intro other later
      have apart : other.1 ≠ field.name := by
        intro same
        exact unrepeated (List.mem_map.mpr ⟨other,later,same⟩)
      rw [lookup_entry,if_neg apart]
      exact unfilled other later
    · intro another member doc present
      exact checked another member doc (List.mem_cons_of_mem _ present)

theorem RecordReader.Serves.decoder_object {α : Type} {reader : RecordReader α}
    (unambiguous : Unambiguous reader.fields) (record : String) {source inner : Source}
    (entered : source.enter = some inner) {members : Slots}
    (addressed : Addressed reader.fields members) {result : α}
    (serves : reader.Serves inner (fun name => members.lookup name) result) :
    reader.decoder record source
      (.object (members.map fun member => (some member.1,member.2))) = .ok result := by
  have slots := memberSlots_addressed reader.fields unambiguous inner members [] addressed
    (fun _ _ => rfl) (fun field member doc present => serves.checked field member doc
      (lookup_of_mem members addressed.distinct _ _ present))
  rw [List.append_nil] at slots
  have built := serves.built members.reverse (lookup_reverse members addressed.distinct)
  simp only [RecordReader.decoder,recordSlots,entered,slots]
  exact built

def documents (members : List (String × Json)) : Slots :=
  members.map fun member => (member.1,member.2.toDocument)

theorem toDocument_object (members : List (String × Json)) : toDocument (.object members) =
    .object ((documents members).map fun member => (some member.1,member.2)) := by
  rw [toDocument]
  congr 1
  induction members with
  | nil => rfl
  | cons member rest ih => rw [membersToDocument,ih]; rfl

theorem addressed_documents {fields : List Field} {members : List (String × Json)}
    (distinct : (members.map Prod.fst).Nodup)
    (known : members.map Prod.fst ⊆ fields.map Field.name) :
    Addressed fields (documents members) := by
  constructor
  · rw [documents,List.map_map]
    exact distinct
  · intro member present
    obtain ⟨origin,member,rfl⟩ := List.mem_map.mp present
    exact known (List.mem_map_of_mem member)

def written (members : List (String × Json)) (name : String) : Option Document :=
  (members.reverse.lookup name).map toDocument

theorem RecordReader.Serves.member {α β : Type} {reader : RecordReader (α → β)} {source : Source}
    {members : List (String × Json)} {make : α → β}
    (serves : reader.Serves source (written members) make) {name : String}
    {aliases : List String} {decoder : Decoder α} {absent : Except Fault α} {defaulted : Bool}
    {encode : α → Json} (undoes : decoder.Undoes encode source) (given : α)
    (found : members.reverse.lookup name = some (encode given)) :
    (reader.add name aliases decoder absent defaulted).Serves source (written members)
      (make given) := by
  apply serves.add given
  rw [written,found]
  exact undoes given

theorem RecordReader.Serves.decoder_ofMembers {α : Type} {reader : RecordReader α}
    (unambiguous : Unambiguous reader.fields) (record : String) {source inner : Source}
    (entered : source.enter = some inner) {members : List (String × Json)}
    (known : members.map Prod.fst ⊆ reader.fields.map Field.name) {result : α}
    (serves : reader.Serves inner (written members) result) :
    reader.decoder record source (ofMembers members).toDocument = .ok result := by
  have keys : (arranged members).map Prod.fst ⊆ reader.fields.map Field.name := by
    intro key present
    obtain ⟨member,kept,rfl⟩ := List.mem_map.mp present
    exact known (List.mem_map_of_mem (mem_arranged members member kept))
  have addressed : Addressed reader.fields (documents (arranged members)) :=
    addressed_documents (arranged_ascending members).distinct keys
  have found : (fun name => (documents (arranged members)).lookup name) = written members := by
    funext name
    rw [documents,lookup_map,lookup_arranged,written]
  rw [ofMembers_eq,toDocument_object]
  exact decoder_object unambiguous record entered addressed (found ▸ serves)

/-- A body with members that are not containers holds them as they were written. -/
theorem Spells.documents_lookup {own members : List (String × Json)}
    (spells : Spells (.object own) (.ofMembers members))
    (flat : ∀ member ∈ members, member.2.Flat) (name : String) :
    (documents own).lookup name = written members name := by
  obtain ⟨_,same,_,found⟩ := spells.object
  cases same
  have told := found name
  rw [documents,lookup_map,written,← told]
  cases present : own.lookup name with
  | none => rfl
  | some value =>
    rw [present] at told
    have listed := mem_of_lookup _ _ _ told.symm
    have plain := flat _ (List.mem_reverse.mp listed)
    have unchanged := eq_of_canonical_flat value value.canonical plain rfl
    simp only [Option.map_some,← unchanged]

/-- From a text a record of members that are not containers is read as from their object. -/
theorem RecordReader.Serves.decodeText {α : Type} {reader : RecordReader α}
    (unambiguous : Unambiguous reader.fields) (record : String) {members : List (String × Json)}
    (known : members.map Prod.fst ⊆ reader.fields.map Field.name)
    (flat : ∀ member ∈ members, member.2.Flat) {result : α}
    (serves : reader.Serves (.text (maxDepth - 1)) (written members) result) {text : String}
    (tells : Tells text (.ofMembers members)) :
    Json.decodeText (reader.decoder record) text = .ok result := by
  obtain ⟨body,spells,document⟩ := tells
  obtain ⟨own,rfl,distinct,_⟩ := spells.object
  have found : (fun name => (documents own).lookup name) = written members :=
    funext (spells.documents_lookup flat)
  have addressed : Addressed reader.fields (documents own) :=
    addressed_documents distinct fun key present => known (spells.keys_subset present)
  rw [decodeText_eq_ok,document,toDocument_object]
  exact ⟨decoder_object unambiguous record rfl addressed (found ▸ serves),rfl⟩

end SoloMining.Json
