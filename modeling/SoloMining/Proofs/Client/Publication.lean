import SoloMining.Proofs.Client.Transition
import Mathlib.Data.List.Nodup

/-! The jobs that a client hands out. They are numbered through over disconnects and new settings, so
no identifier comes back, and a result for any but the current job goes no further. -/
namespace SoloMining.Client

def job? : Effect → Option Job
  | .job job => some job
  | _ => none

def handedOut (effects : List Effect) : List Job := effects.filterMap job?

def published (history : List Entry) : List Job :=
  history.flatMap fun entry => handedOut entry.effects

@[simp] theorem handedOut_append (first second : List Effect) :
    handedOut (first ++ second) = handedOut first ++ handedOut second := List.filterMap_append

@[simp] theorem handedOut_greeting (client : Client) : handedOut client.greeting = [] := by
  unfold greeting
  split <;> rfl

@[simp] theorem handedOut_verdict (now : Nat) (submission : Submission)
    (result : Except Error Response) : handedOut (verdict now submission result) = [] := by
  unfold verdict
  split <;> rfl

variable {client next : Client} {now : Nat} {input : Input} {effects : List Effect}
  {answer : Answer}

/-- An operation hands out the next job of the sequence and works on it, or goes on with the job it
has, or with none. -/
theorem Transition.publication (moved : client.Transition now input next effects answer) :
    (handedOut effects = [] ∧ next.jobs.sequence = client.jobs.sequence ∧
      ∀ job, next.jobs.current = some job → client.jobs.current = some job) ∨
    (∃ job, handedOut effects = [job] ∧ next.jobs.sequence = client.jobs.sequence + 1 ∧
      job.id = .ofSequence (client.jobs.sequence + 1) ∧ next.jobs.current = some job) := by
  cases moved with
  | published =>
    refine .inr ⟨_,?_,rfl,rfl,rfl⟩
    rw [handedOut_append,handedOut_greeting]
    rfl
  | disconnect => exact .inl ⟨rfl,rfl,by simp [dropped,JobBoard.clear]⟩
  | reconfigured settings entropy jobs usable =>
    obtain ⟨_,empty,kept⟩ := jobBoard_fresh settings entropy _ jobs usable
    refine .inl ⟨?_,kept,by simp [empty]⟩
    split <;> rfl
  | kept => exact .inl ⟨handedOut_greeting client,rfl,fun _ same => same⟩
  | undelivered =>
    refine .inl ⟨?_,rfl,fun _ same => same⟩
    rw [handedOut_append,handedOut_verdict]
    rfl
  | resolved =>
    refine .inl ⟨?_,rfl,fun _ same => same⟩
    rw [handedOut_append,handedOut_verdict]
    rfl
  | resolvedMeanwhile => exact .inl ⟨handedOut_verdict now _ _,rfl,fun _ same => same⟩
  | above =>
    refine .inl ⟨?_,rfl,fun _ same => same⟩
    split <;> rfl
  | stay | connect | tick | refused | unclaimed | sent | generated =>
    exact .inl ⟨rfl,rfl,fun _ same => same⟩

structure Sequenced (client : Client) (jobs : List Job) : Prop where
  counted : client.jobs.sequence = .ofNat jobs.length
  placed : ∀ (n : Nat) (job : Job), jobs[n]? = some job → job.id = .ofSequence (.ofNat (n + 1))
  current : ∀ job, client.jobs.current = some job → job ∈ jobs

theorem Transition.sequenced (moved : client.Transition now input next effects answer)
    (jobs : List Job) (sequenced : client.Sequenced jobs) :
    next.Sequenced (jobs ++ handedOut effects) := by
  obtain ⟨counted,placed,current⟩ := sequenced
  rcases moved.publication with ⟨none,same,kept⟩ | ⟨job,one,grown,named,working⟩
  · rw [none,List.append_nil]
    exact ⟨same.trans counted,placed,fun job held => current job (kept job held)⟩
  · rw [one]
    refine ⟨by simp [grown,counted],?_,?_⟩
    · intro n other found
      rcases Nat.lt_or_ge n jobs.length with old | new
      · rw [List.getElem?_append_left old] at found
        exact placed n other found
      · rw [List.getElem?_append_right new,List.getElem?_singleton] at found
        split at found
        next last =>
          cases Option.some.inj found
          rw [named,counted,show n = jobs.length by omega,UInt64.ofNat_add]
          rfl
        next => contradiction
    · intro other held
      cases Option.some.inj (working.symm.trans held)
      simp

theorem Run.sequenced (history : List Entry) (run : Run history client) :
    client.Sequenced (published history) := by
  induction run with
  | create settings entropy client made =>
    obtain ⟨coherent,idle,_,none⟩ := create_coherent settings entropy made
    refine ⟨none,by simp [Client.published],?_⟩
    intro job held
    cases (coherent.jobless idle).symm.trans held
  | step history entry earlier ih =>
    rw [Client.published,List.flatMap_append,List.flatMap_singleton]
    exact (earlier.transition entry).sequenced _ ih

/-- As long as the count of the jobs has not come around, no two of them have one identifier. -/
theorem Sequenced.distinct (jobs : List Job) (sequenced : client.Sequenced jobs)
    (few : jobs.length < 2 ^ 64) : (jobs.map fun job => job.id.text).Nodup := by
  have named (n : Nat) (inside : n < jobs.length) :
      jobs[n].id = .ofSequence (.ofNat (n + 1)) :=
    sequenced.placed n jobs[n] (List.getElem?_eq_getElem inside)
  rw [List.nodup_iff_injective_get]
  rintro ⟨m,left⟩ ⟨n,right⟩ same
  rw [List.length_map] at left right
  have texts : jobs[m].id.text = jobs[n].id.text := by simpa using same
  have ids : jobs[m].id = jobs[n].id := congrArg JobId.mk texts
  rw [named m left,named n right] at ids
  have places := JobId.ofSequence_ofNat_inj (Nat.lt_of_le_of_lt left few)
    (Nat.lt_of_le_of_lt right few) ids
  exact Fin.ext (Nat.succ.inj places)

/-- A result for a job that is no longer current changes nothing and reaches nobody. -/
theorem Sequenced.superseded (jobs : List Job) (sequenced : client.Sequenced jobs)
    (few : jobs.length < 2 ^ 64) (job : Job) (past : job ∈ jobs)
    (passed : client.jobs.current ≠ some job) (now : Nat) (result : JobResult)
    (named : result.jobId = job.id) :
    client.step now (.submit result) = ⟨client,[],.submitted (.error .notCurrent)⟩ := by
  have other (current : Job) (held : client.jobs.current = some current) :
      current.id ≠ result.jobId := by
    intro same
    have texts : current.id.text = job.id.text := congrArg JobId.text (same.trans named)
    have equal := List.inj_on_of_nodup_map (sequenced.distinct jobs few)
      (sequenced.current current held) past texts
    exact passed (held.trans (congrArg some equal))
  simp only [step,submit]
  cases held : client.jobs.current with
  | none => rfl
  | some current => simp only [ne_eq,other current held,not_false_eq_true,if_true]

/-- Of fewer than 2^64 jobs the n-th has the n-th identifier, all identifiers are different texts, and a
result for a job that was superseded or dropped never gets further than the client. -/
theorem job_ids_never_reused (history : List Entry) (client : Client) (run : Run history client)
    (few : (published history).length < 2 ^ 64) :
    (∀ (n : Nat) (job : Job), (published history)[n]? = some job →
      job.id = .ofSequence (.ofNat (n + 1))) ∧
    ((published history).map fun job => job.id.text).Nodup ∧
    ∀ job ∈ published history, client.jobs.current ≠ some job → ∀ (now : Nat) (result : JobResult),
      result.jobId = job.id →
      client.step now (.submit result) = ⟨client, [], .submitted (.error .notCurrent)⟩ := by
  have sequenced := run.sequenced
  refine ⟨sequenced.placed,sequenced.distinct _ few,?_⟩
  intro job past passed now result named
  exact sequenced.superseded _ few job past passed now result named

/-- With the second job there is no way to send a result for the first one. -/
theorem job_ids_never_reused_superseded : ∃ history client job,
    Run history client ∧ (published history).length < 2 ^ 64 ∧ job ∈ published history ∧
      client.jobs.current.isSome ∧ client.jobs.current ≠ some job ∧
      ∀ now result, result.jobId = job.id →
        client.step now (.submit result) = ⟨client, [], .submitted (.error .notCurrent)⟩ := by
  obtain ⟨answer,read⟩ : ∃ answer, templateOf answer = .ok Sample.first := ⟨_,Sample.first_read⟩
  have run := (Sample.opening_run read).replay Sample.working
    [(15002, .tick), (15003, .complete 2 (Sample.template Sample.secondBlock))]
  generalize replayed : Sample.working.replay
    [(15002, .tick), (15003, .complete 2 (Sample.template Sample.secondBlock))] = rest at run
  obtain ⟨one,working,passed⟩ : (published rest.1).length = 1 ∧ rest.2.jobs.current.isSome ∧
      rest.2.jobs.current ≠ some Sample.job := by
    rw [← replayed]
    decide +kernel
  have first : published (Sample.opening answer) = [Sample.job] := by
    rw [published,← List.flatMap_map,Sample.opening_effects read]
    rfl
  have whole : published (Sample.opening answer ++ rest.1) = Sample.job :: published rest.1 :=
    List.flatMap_append.trans (congrArg (· ++ published rest.1) first)
  have few : (published (Sample.opening answer ++ rest.1)).length < 2 ^ 64 := by
    rw [whole,List.length_cons,one]
    decide
  have past : Sample.job ∈ published (Sample.opening answer ++ rest.1) := by simp [whole]
  obtain ⟨_,_,refused⟩ := job_ids_never_reused _ rest.2 run few
  exact ⟨_,rest.2,Sample.job,run,few,past,working,passed,refused Sample.job past passed⟩

end SoloMining.Client
