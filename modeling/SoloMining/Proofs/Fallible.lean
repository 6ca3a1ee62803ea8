import Mathlib.Data.List.Forall2

/-! Steps that may fail: a chain of them succeeds exactly if each one does. -/
namespace SoloMining

variable {ε α β : Type}

theorem bind_eq_ok (first : Except ε α) (next : α → Except ε β) (result : β) :
    (first >>= next) = .ok result ↔ ∃ value, first = .ok value ∧ next value = .ok result := by
  cases first with
  | error fault => simp [bind,Except.bind]
  | ok value => simp [bind,Except.bind]

theorem pure_eq_ok (value result : α) : (pure value : Except ε α) = .ok result ↔ value = result :=
  Except.ok.injEq value result ▸ Iff.rfl

theorem toOption_eq_some (outcome : Except ε α) (value : α) :
    outcome.toOption = some value ↔ outcome = .ok value := by
  cases outcome <;> simp [Except.toOption]

/-- A step whose result can be looked at has one. -/
theorem exists_ok (outcome : Except ε α) (view : α → β) (seen : β)
    (check : outcome.toOption.map view = some seen) :
    ∃ value, outcome = .ok value ∧ view value = seen := by
  cases outcome with
  | error fault => simp [Except.toOption] at check
  | ok value => exact ⟨value,rfl,Option.some.inj check⟩

theorem mapM_eq_ok (read : α → Except ε β) (items : List α) (results : List β) :
    items.mapM read = .ok results ↔
      List.Forall₂ (fun item result => read item = .ok result) items results := by
  induction items generalizing results with
  | nil =>
    rw [List.mapM_nil,pure_eq_ok,List.forall₂_nil_left_iff]
    exact eq_comm
  | cons item rest ih =>
    simp only [List.mapM_cons,bind_eq_ok,pure_eq_ok,ih,List.forall₂_cons_left_iff]
    constructor
    · rintro ⟨result,read,more,others,rfl⟩
      exact ⟨result,more,read,others,rfl⟩
    · rintro ⟨result,more,read,others,rfl⟩
      exact ⟨result,read,more,others,rfl⟩

theorem exists_forall₂ (relation : α → β → Prop) (items : List α) :
    (∃ results, List.Forall₂ relation items results) ↔
      ∀ item ∈ items, ∃ result, relation item result := by
  induction items with
  | nil => simp
  | cons item rest ih =>
    simp only [List.forall₂_cons_left_iff,List.forall_mem_cons,← ih]
    constructor
    · rintro ⟨_,result,others,first,more,rfl⟩
      exact ⟨⟨result,first⟩,others,more⟩
    · rintro ⟨⟨result,first⟩,others,more⟩
      exact ⟨_,result,others,first,more,rfl⟩

end SoloMining
