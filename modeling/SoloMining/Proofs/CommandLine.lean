import SoloMining.CommandLine.Invocation
import SoloMining.Proofs.Config.Value
import SoloMining.Proofs.Fallible
import Mathlib.Logic.Relation

/-! What reading a command line does to the configuration. Whatever words there are, and whatever the
environment holds, arguments are recorded one after another, and each changes its own setting alone. -/
namespace SoloMining.CommandLine

namespace Argument

theorem assign_setting (c next : Config) (value : String) (s : Setting)
    (assigned : assign c value (.setting s) = .ok next) : ∃ v, next = c.set s v := by
  cases s with
  | host | tls | insecure | user | password | address | coin | algorithm | logJson =>
    cases assigned
    exact ⟨_,rfl⟩
  | port | pollInterval | jobTimeout | retryPause | httpTimeout | logFile | generate =>
    obtain ⟨_,_,same⟩ := (bind_eq_ok _ _ _).mp assigned
    cases same
    exact ⟨_,rfl⟩
  | logLevel =>
    simp only [assign] at assigned
    split at assigned
    next =>
      cases assigned
      exact ⟨_,rfl⟩
    next => cases assigned

/-- An argument leaves the settings that it is not for. -/
theorem assign_value_other (c next : Config) (value : String) (a : Argument)
    (assigned : a.assign c value = .ok next) (s : Setting) (other : a ≠ .setting s) :
    next.value s = c.value s := by
  cases a with
  | setting own =>
    obtain ⟨v,rfl⟩ := assign_setting c next value own assigned
    exact c.set_value_other own v s fun same => other (congrArg _ same.symm)
  | printConfig =>
    cases assigned
    cases s <;> rfl
  | configFile =>
    obtain ⟨_,_,same⟩ := (bind_eq_ok _ _ _).mp assigned
    cases same
    cases s <;> rfl
  | help | version => cases assigned

end Argument

namespace Invocation

def Leads : Invocation → Invocation → Prop :=
  Relation.ReflTransGen fun earlier later => ∃ a value, earlier.record a value = .ok later

theorem Leads.record {first last next : Invocation} (leads : first.Leads last) (a : Argument)
    (value : String) (recorded : last.record a value = .ok next) : first.Leads next :=
  leads.tail ⟨a,value,recorded⟩

end Invocation

namespace Progress

open Invocation

variable {p next : Progress}

theorem settle_leads (settled : p.settle = .ok next) : p.invocation.Leads next.invocation := by
  unfold settle at settled
  split at settled
  next =>
    cases settled
    exact .refl
  next => cases settled
  next option value _ =>
    obtain ⟨_,recorded,same⟩ := (bind_eq_ok _ _ _).mp settled
    cases same
    exact Leads.record .refl option value recorded

theorem take_leads (a : Argument) (value : String) (taken : p.take a value = .ok next) :
    p.invocation.Leads next.invocation := by
  obtain ⟨_,settled,later⟩ := (bind_eq_ok _ _ _).mp taken
  obtain ⟨_,recorded,same⟩ := (bind_eq_ok _ _ _).mp later
  cases same
  exact (settle_leads settled).record a value recorded

theorem option_leads (a : Argument) (attached : Option String)
    (opened : p.option a attached = .ok next) : p.invocation.Leads next.invocation := by
  cases attached with
  | some value => exact take_leads a value opened
  | none =>
    obtain ⟨last,settled,same⟩ := (bind_eq_ok _ _ _).mp opened
    cases same
    have led : p.invocation.Leads last.invocation := settle_leads settled
    exact led

theorem long_leads (word : List Char) (read : p.long word = .ok next) :
    p.invocation.Leads next.invocation := by
  simp only [long] at read
  split at read
  next => cases read
  next a _ =>
    split at read
    next => exact option_leads a _ read
    next =>
      split at read
      next => cases read
      next => exact take_leads a "" read

theorem letters_leads (word : List Char) (read : p.letters word = .ok next) :
    p.invocation.Leads next.invocation := by
  induction word generalizing p with
  | nil =>
    cases read
    exact .refl
  | cons c rest ih =>
    rw [letters] at read
    split at read
    next => cases read
    next a _ =>
      split at read
      next =>
        split at read
        all_goals exact option_leads a _ read
      next =>
        obtain ⟨_,taken,more⟩ := (bind_eq_ok _ _ _).mp read
        exact (take_leads a "" taken).trans (ih more)

theorem value_invocation (word : String) (read : p.value word = .ok next) :
    next.invocation = p.invocation := by
  unfold value at read
  split at read
  next =>
    cases read
    rfl
  next => cases read

theorem word_leads (text : String) (read : p.word text = .ok next) :
    p.invocation.Leads next.invocation := by
  unfold word at read
  split at read
  next => exact long_leads _ read
  next => exact value_invocation text read ▸ .refl
  next => exact letters_leads _ read
  next => exact value_invocation text read ▸ .refl

theorem words_leads (arguments : List String) (read : p.words arguments = .ok next) :
    p.invocation.Leads next.invocation := by
  induction arguments generalizing p with
  | nil => exact settle_leads read
  | cons text rest ih =>
    unfold words at read
    split at read
    next empty => cases empty
    next ended =>
      split at read
      next => exact settle_leads read
      next => cases read
    next same =>
      cases same
      obtain ⟨_,first,later⟩ := (bind_eq_ok _ _ _).mp read
      exact (word_leads text first).trans (ih later)

end Progress

namespace Invocation

theorem addVariable_leads (environment : String → Option String)
    (invocation next : Invocation) (entry : String × Setting)
    (added : invocation.addVariable environment entry = .ok next) : invocation.Leads next := by
  unfold addVariable at added
  split at added
  next =>
    cases added
    exact .refl
  next =>
    split at added
    next value _ => exact Leads.record .refl _ value added
    next =>
      cases added
      exact .refl

theorem variables_leads (environment : String → Option String) (entries : List (String × Setting))
    (invocation last : Invocation)
    (added : entries.foldlM (addVariable environment) invocation = .ok last) :
    invocation.Leads last := by
  induction entries generalizing invocation with
  | nil =>
    cases added
    exact .refl
  | cons entry rest ih =>
    obtain ⟨next,first,later⟩ := (bind_eq_ok _ _ _).mp added
    exact (addVariable_leads environment invocation next entry first).trans (ih next later)

theorem parse_leads (environment : String → Option String) (arguments : List String)
    (invocation : Invocation) (parsed : parse environment arguments = .ok invocation) :
    start.Leads invocation := by
  obtain ⟨progress,read,completed⟩ := (bind_eq_ok _ _ _).mp parsed
  have led : start.Leads progress.invocation := Progress.words_leads arguments read
  exact led.trans (variables_leads environment _ _ _ completed)

/-- What is not given stays as it was. -/
theorem record_value_other (invocation next : Invocation) (a : Argument) (value : String)
    (recorded : invocation.record a value = .ok next) (s : Setting)
    (absent : next.isGiven s = false) :
    invocation.isGiven s = false ∧ next.config.value s = invocation.config.value s := by
  unfold record at recorded
  split at recorded
  next => cases recorded
  next =>
    obtain ⟨config,assigned,same⟩ := (bind_eq_ok _ _ _).mp recorded
    cases same
    simp only [isGiven,List.contains_cons,Bool.or_eq_false_iff,beq_eq_false_iff_ne] at absent
    obtain ⟨other,before⟩ := absent
    exact ⟨before,a.assign_value_other _ _ value assigned s other.symm⟩

/-- A setting that is not given has its default. -/
theorem Leads.value_default {invocation : Invocation} (leads : start.Leads invocation)
    (s : Setting) (absent : invocation.isGiven s = false) :
    invocation.config.value s = Config.default.value s := by
  -- On the records: the last of them cannot have been for this setting, nor any before it.
  induction leads with
  | refl => rfl
  | tail _ step ih =>
    obtain ⟨a,value,recorded⟩ := step
    obtain ⟨before,same⟩ := record_value_other _ _ a value recorded s absent
    rw [same,ih before]

end Invocation

end SoloMining.CommandLine
