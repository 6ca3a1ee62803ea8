import SoloMining.Json.Basic
import Mathlib.Data.List.Induction
import Mathlib.Data.String.Basic

/-! Members of objects in the ascending order of their keys. What a key leads to does not depend on
the order in which the members came, except that the last of equal keys wins; and members that are in
order already stay as they are. -/
namespace SoloMining.Json

def arranged (members : List (String × Json)) : List (String × Json) :=
  members.foldl (fun sorted (k,v) => insertMember k v sorted) []

def Ascending (members : List (String × Json)) : Prop := (members.map Prod.fst).Pairwise (· < ·)

theorem ofMembers_eq (members : List (String × Json)) :
    ofMembers members = .object (arranged members) := rfl

theorem arranged_append (members : List (String × Json)) (key : String) (value : Json) :
    arranged (members ++ [(key,value)]) = insertMember key value (arranged members) := by
  simp [arranged]

theorem mem_insertMember (key : String) (value : Json) (members : List (String × Json))
    (member : String × Json) (present : member ∈ insertMember key value members) :
    member = (key,value) ∨ member ∈ members := by
  induction members with
  | nil => simpa [insertMember] using present
  | cons first rest ih =>
    obtain ⟨k,v⟩ := first
    rw [insertMember] at present
    split at present
    next => simpa using present
    next =>
      split at present
      next => exact (List.mem_cons.mp present).imp_right (List.mem_cons_of_mem _)
      next =>
        cases List.mem_cons.mp present with
        | inl same => exact .inr (same ▸ List.mem_cons_self)
        | inr later => exact (ih later).imp_right (List.mem_cons_of_mem _)

theorem lookup_entry {α : Type} (name key : String) (value : α) (rest : List (String × α)) :
    ((key,value) :: rest).lookup name = if name = key then some value else rest.lookup name := by
  rw [List.lookup_cons]
  by_cases same : name = key
  · simp [same]
  · simp [same,beq_eq_false_iff_ne.mpr same]

theorem lookup_map {α β : Type} (members : List (String × α)) (f : α → β) (name : String) :
    (members.map fun member => (member.1,f member.2)).lookup name =
      (members.lookup name).map f := by
  induction members with
  | nil => rfl
  | cons first rest ih =>
    rw [List.map_cons,lookup_entry,lookup_entry,ih]
    by_cases same : name = first.1 <;> simp [same]

theorem lookup_of_mem {α : Type} (members : List (String × α))
    (distinct : (members.map Prod.fst).Nodup) (key : String) (value : α)
    (member : (key,value) ∈ members) : members.lookup key = some value := by
  induction members with
  | nil => cases member
  | cons first rest ih =>
    obtain ⟨unrepeated,others⟩ := List.nodup_cons.mp distinct
    rw [lookup_entry]
    cases List.mem_cons.mp member with
    | inl same => rw [← same,if_pos rfl]
    | inr later =>
      have apart : key ≠ first.1 := by
        intro same
        exact unrepeated (List.mem_map.mpr ⟨(key,value),later,same⟩)
      rw [if_neg apart,ih others later]

theorem mem_of_lookup {α : Type} (members : List (String × α)) (key : String) (value : α)
    (found : members.lookup key = some value) : (key,value) ∈ members := by
  obtain ⟨before,after,split,_⟩ := List.lookup_eq_some_iff.mp found
  simp [split]

/-- Without repeated keys the order does not matter. -/
theorem lookup_reverse {α : Type} (members : List (String × α))
    (distinct : (members.map Prod.fst).Nodup) (key : String) :
    members.reverse.lookup key = members.lookup key := by
  have turned : (members.reverse.map Prod.fst).Nodup := by
    rw [List.map_reverse]
    exact (List.reverse_perm _).nodup_iff.mpr distinct
  cases found : members.lookup key with
  | some value =>
    have member := mem_of_lookup members key value found
    exact lookup_of_mem _ turned key value (List.mem_reverse.mpr member)
  | none =>
    cases other : members.reverse.lookup key with
    | none => rfl
    | some value =>
      have member := List.mem_reverse.mp (mem_of_lookup _ key value other)
      rw [lookup_of_mem members distinct key value member] at found
      cases found

theorem lookup_insertMember (key : String) (value : Json) (members : List (String × Json))
    (name : String) : (insertMember key value members).lookup name =
      if name = key then some value else members.lookup name := by
  induction members with
  | nil => rw [insertMember,lookup_entry]
  | cons first rest ih =>
    obtain ⟨k,v⟩ := first
    rw [insertMember]
    split
    next => rw [lookup_entry]
    next =>
      split
      next equal =>
        rw [lookup_entry,lookup_entry,equal]
        by_cases same : name = key <;> simp [same]
      next unequal =>
        rw [lookup_entry,lookup_entry,ih]
        by_cases same : name = key
        · simp [same,Ne.symm unequal]
        · simp [same]

theorem Ascending.insertMember {members : List (String × Json)} (ascending : Ascending members)
    (key : String) (value : Json) : Ascending (insertMember key value members) := by
  induction members with
  | nil => simp [Ascending,Json.insertMember]
  | cons first rest ih =>
    obtain ⟨k,v⟩ := first
    obtain ⟨least,later⟩ := List.pairwise_cons.mp ascending
    rw [Json.insertMember]
    split
    next below =>
      refine List.pairwise_cons.mpr ⟨?_,ascending⟩
      intro name member
      cases List.mem_cons.mp member with
      | inl same => exact same ▸ below
      | inr beyond => exact lt_trans below (least name beyond)
    next above =>
      split
      next same =>
        subst same
        exact ascending
      next unequal =>
        refine List.pairwise_cons.mpr ⟨?_,ih later⟩
        intro name member
        obtain ⟨entry,present,rfl⟩ := List.mem_map.mp member
        cases mem_insertMember key value rest entry present with
        | inl same =>
          rw [same]
          exact lt_of_le_of_ne (le_of_not_gt above) unequal
        | inr old => exact least entry.1 (List.mem_map_of_mem old)

theorem arranged_ascending (members : List (String × Json)) : Ascending (arranged members) := by
  induction members using List.reverseRecOn with
  | nil => exact List.Pairwise.nil
  | append_singleton before member ih =>
    rw [arranged_append]
    exact ih.insertMember _ _

theorem Ascending.distinct {members : List (String × Json)} (ascending : Ascending members) :
    (members.map Prod.fst).Nodup := ascending.imp ne_of_lt

theorem mem_arranged (members : List (String × Json)) (member : String × Json)
    (present : member ∈ arranged members) : member ∈ members := by
  induction members using List.reverseRecOn with
  | nil => exact present
  | append_singleton before last ih =>
    rw [arranged_append] at present
    rw [List.mem_append,List.mem_singleton]
    exact (mem_insertMember _ _ _ _ present).symm.imp_left ih

/-- A key leads to the last of its values. -/
theorem lookup_arranged (members : List (String × Json)) (name : String) :
    (arranged members).lookup name = members.reverse.lookup name := by
  induction members using List.reverseRecOn with
  | nil => rfl
  | append_singleton before member ih =>
    rw [arranged_append,lookup_insertMember,ih,List.reverse_append,List.reverse_singleton,
      List.singleton_append,← lookup_entry]

theorem insertMember_last (key : String) (value : Json) (members : List (String × Json))
    (last : ∀ member ∈ members, member.1 < key) :
    insertMember key value members = members ++ [(key,value)] := by
  induction members with
  | nil => rfl
  | cons first rest ih =>
    obtain ⟨below,later⟩ := List.forall_mem_cons.mp last
    rw [insertMember,if_neg (lt_asymm below),if_neg (ne_of_lt below),ih later,List.cons_append]

theorem arranged_eq_self (members : List (String × Json)) (ascending : Ascending members) :
    arranged members = members := by
  induction members using List.reverseRecOn with
  | nil => rfl
  | append_singleton before member ih =>
    unfold Ascending at ascending
    rw [List.map_append,List.pairwise_append] at ascending
    obtain ⟨earlier,_,below⟩ := ascending
    rw [arranged_append,ih earlier]
    apply insertMember_last
    intro other present
    exact below other.1 (List.mem_map_of_mem present) member.1 (by simp)

end SoloMining.Json
