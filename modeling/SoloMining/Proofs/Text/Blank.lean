import SoloMining.Text.Blank
import Mathlib.Data.List.Basic

/-! Splitting a text at its first separator, and taking the blanks around it away. -/
namespace SoloMining.Text

theorem splitFirst_eq_some (separator : Char) (cs before after : List Char) :
    splitFirst separator cs = some (before,after) ↔
      cs = before ++ separator :: after ∧ separator ∉ before := by
  induction cs generalizing before with
  | nil => simp [splitFirst]
  | cons c rest ih =>
    rw [splitFirst]
    split
    next met =>
      subst met
      cases before with
      | nil => simp
      | cons first more =>
        simp only [Option.some.injEq,Prod.mk.injEq,reduceCtorEq,false_and,List.cons_append,
          List.cons.injEq,List.mem_cons,not_or,false_iff,not_and]
        intro same apart
        exact absurd same.1 apart
    next other =>
      cases before with
      | nil =>
        have unequal : ¬ c = separator := other
        simp [unequal]
      | cons first more =>
        simp only [Option.map_eq_some_iff,Prod.exists,Prod.mk.injEq,List.cons.injEq,
          List.cons_append,List.mem_cons,not_or]
        constructor
        · intro found
          obtain ⟨part,tail,split,⟨rfl,rfl⟩,rfl⟩ := found
          obtain ⟨rfl,absent⟩ := (ih part).mp split
          exact ⟨⟨rfl,rfl⟩,Ne.symm other,absent⟩
        · intro whole
          obtain ⟨⟨rfl,rfl⟩,_,absent⟩ := whole
          exact ⟨more,after,(ih more).mpr ⟨rfl,absent⟩,⟨rfl,rfl⟩,rfl⟩

theorem splitFirst_eq_none (separator : Char) (cs : List Char) :
    splitFirst separator cs = none ↔ separator ∉ cs := by
  induction cs with
  | nil => simp [splitFirst]
  | cons c rest ih =>
    rw [splitFirst]
    split
    next met => simp [met]
    next other => simp [ih,Ne.symm other]

structure Bare (core : List Char) : Prop where
  first : ∀ c ∈ core.head?, isBlank c = false
  last : ∀ c ∈ core.getLast?, isBlank c = false

structure Surrounds (text core : List Char) : Prop where
  blanks : ∃ front back, text = front ++ core ++ back ∧ (∀ c ∈ front, isBlank c = true) ∧
    ∀ c ∈ back, isBlank c = true
  bare : Bare core

private theorem dropWhile_split (cs : List Char) :
    ∃ front, cs = front ++ cs.dropWhile isBlank ∧ ∀ c ∈ front, isBlank c = true := by
  refine ⟨cs.takeWhile isBlank,List.takeWhile_append_dropWhile.symm,?_⟩
  intro c taken
  exact List.all_eq_true.mp List.all_takeWhile c taken

private theorem head?_dropWhile (cs : List Char) :
    ∀ c ∈ (cs.dropWhile isBlank).head?, isBlank c = false := by
  intro c first
  have stopped := List.head?_dropWhile_not isBlank cs
  rw [Option.mem_def] at first
  simpa [first] using stopped

private theorem dropWhile_append (front rest : List Char) (blank : ∀ c ∈ front, isBlank c = true)
    (first : ∀ c ∈ rest.head?, isBlank c = false) : (front ++ rest).dropWhile isBlank = rest := by
  rw [List.dropWhile_append_of_pos blank]
  cases rest with
  | nil => rfl
  | cons c more => exact List.dropWhile_cons_of_neg (by simpa using first c rfl)

theorem surrounds_trimChars (text : List Char) : Surrounds text (trimChars text) := by
  obtain ⟨front,whole,blankFront⟩ := dropWhile_split text
  have opened := head?_dropWhile text
  obtain ⟨back,turned,blankBack⟩ := dropWhile_split (text.dropWhile isBlank).reverse
  have closed := head?_dropWhile (text.dropWhile isBlank).reverse
  have middle : text.dropWhile isBlank = trimChars text ++ back.reverse := by
    rw [trimChars,← List.reverse_append,← turned,List.reverse_reverse]
  rw [middle] at whole opened
  refine ⟨⟨front,back.reverse,by simpa using whole,blankFront,?_⟩,⟨?_,?_⟩⟩
  · intro c member
    exact blankBack c (List.mem_reverse.mp member)
  · intro c first
    apply opened c
    rw [List.head?_append,Option.mem_def.mp first]
    rfl
  · intro c last
    apply closed c
    rwa [trimChars,List.getLast?_reverse] at last

theorem Surrounds.trimChars_eq {text core : List Char} (surrounds : Surrounds text core) :
    trimChars text = core := by
  obtain ⟨⟨front,back,rfl,blankFront,blankBack⟩,⟨first,last⟩⟩ := surrounds
  have blankTail : ∀ c ∈ back.reverse, isBlank c = true := by
    intro c member
    exact blankBack c (List.mem_reverse.mp member)
  cases core with
  | nil =>
    have blank : ∀ c ∈ front ++ back, isBlank c = true := by
      intro c member
      exact (List.mem_append.mp member).elim (blankFront c) (blankBack c)
    have none := dropWhile_append (front ++ back) [] blank (by simp)
    rw [List.append_nil] at none
    rw [trimChars,List.append_nil,none]
    rfl
  | cons c more =>
    have opened := dropWhile_append front (c :: more ++ back) blankFront (by simpa using first)
    have closed := dropWhile_append back.reverse (c :: more).reverse blankTail
      (by rwa [List.head?_reverse])
    rw [trimChars,List.append_assoc,opened,List.reverse_append,closed,List.reverse_reverse]

theorem surrounds_iff (text core : List Char) : Surrounds text core ↔ trimChars text = core := by
  constructor
  · exact Surrounds.trimChars_eq
  · intro trimmed
    subst trimmed
    exact surrounds_trimChars text

theorem Bare.surrounds {core : List Char} (bare : Bare core) : Surrounds core core :=
  ⟨⟨[],[],by simp⟩,bare⟩

end SoloMining.Text
