import SoloMining.Proofs.Client.Gate
import SoloMining.Proofs.Rpc.Reply

/-! Templates that do not come to a job. At whatever stage the answer to a template request fails, the
client goes on with the job it has: it counts the failure, tells the backends, and sets the timer to
try again. -/
namespace SoloMining

namespace Client

/-- Why an answer brings no template, by the stage at which it is given up. -/
inductive Unusable (client : Client) (now : Nat) : Except Error Response → Prop
  | undelivered (fault : Error) : Unusable client now (.error fault)
  | otherStatus (response : Response) (status : response.status ≠ 200) :
      Unusable client now (.ok response)
  | malformed (response : Response) (fault : Json.Fault)
      (body : Json.decodeText Reply.decoder response.body = .error fault) :
      Unusable client now (.ok response)
  | reported (response : Response) (reply : Reply) (fault : Error)
      (read : Reply.ofResponse response = .ok reply) (told : reply.error? = some fault) :
      Unusable client now (.ok response)
  | undecodable (response : Response) (reply : Reply) (fault : Error)
      (read : Reply.ofResponse response = .ok reply)
      (shape : Template.ofJson reply.result = .error fault) : Unusable client now (.ok response)
  | unbuildable (response : Response) (t : Template) (fault : Error)
      (read : templateOf (.ok response) = .ok t)
      (refused : (client.jobs.accept now t).1 = .error fault) : Unusable client now (.ok response)

/-- The client after a template request that came to nothing. Of its job board only the dice may have
moved. -/
def setBack (client : Client) (failures : UInt32) (dice : Dice) : Client :=
  { client with
    pendingTemplate := none
    state := .connecting
    failures := some failures
    jobs.builder.dice := dice }

variable {client next : Client} {now : Nat} {effects : List Effect} {answer : Answer}

theorem templateOf_eq_ok (result : Except Error Response) (t : Template) :
    templateOf result = .ok t ↔ ∃ response, result = .ok response ∧
      ∃ reply, Reply.ofResponse response = .ok reply ∧ reply.error? = none ∧
        Template.ofJson reply.result = .ok t := by
  simp only [templateOf,bind_eq_ok,Reply.outcome_eq_ok]
  constructor
  · rintro ⟨response,given,reply,read,value,⟨untold,rfl⟩,decoded⟩
    exact ⟨response,given,reply,read,untold,decoded⟩
  · rintro ⟨response,given,reply,read,untold,decoded⟩
    exact ⟨response,given,reply,read,reply.result,⟨untold,rfl⟩,decoded⟩

/-- The stages leave nothing out: an answer is unusable unless it brings a template to a job. -/
theorem unusable_iff (result : Except Error Response) : Unusable client now result ↔
    ∀ t, templateOf result = .ok t → ∃ fault, (client.jobs.accept now t).1 = .error fault := by
  constructor
  · intro unusable t given
    obtain ⟨response,rfl,reply,read,untold,decoded⟩ := (templateOf_eq_ok result t).mp given
    cases unusable with
    | otherStatus _ status =>
      exact absurd ((Reply.ofResponse_eq_ok response reply).mp read).1 status
    | malformed _ fault body =>
      have parsed := ((Reply.ofResponse_eq_ok response reply).mp read).2
      simp [body] at parsed
    | reported _ other fault reread told =>
      cases Except.ok.inj (read.symm.trans reread)
      simp [untold] at told
    | undecodable _ other fault reread shape =>
      cases Except.ok.inj (read.symm.trans reread)
      simp [decoded] at shape
    | unbuildable _ other fault found refused =>
      cases Except.ok.inj (given.symm.trans found)
      exact ⟨fault,refused⟩
  · intro failing
    cases result with
    | error fault => exact .undelivered fault
    | ok response =>
      by_cases status : response.status = 200
      · cases body : Json.decodeText Reply.decoder response.body with
        | error fault => exact .malformed response fault body
        | ok reply =>
          have read := (Reply.ofResponse_eq_ok response reply).mpr ⟨status,body⟩
          cases told : reply.error? with
          | some fault => exact .reported response reply fault read told
          | none =>
            cases shape : Template.ofJson reply.result with
            | error fault => exact .undecodable response reply fault read shape
            | ok t =>
              have given := (templateOf_eq_ok _ t).mpr ⟨response,rfl,reply,read,told,shape⟩
              obtain ⟨fault,refused⟩ := failing t given
              exact .unbuildable response t fault given refused
      · exact .otherStatus response status

theorem Unusable.of_refused (result : Except Error Response)
    (refused : ((templateOf result).toOption.any fun t =>
      (client.jobs.accept now t).1.toOption.isNone) = true) : Unusable client now result := by
  apply (unusable_iff result).mpr
  intro t given
  rw [given] at refused
  cases outcome : (client.jobs.accept now t).1 with
  | ok isNew => simp [Except.toOption,outcome] at refused
  | error fault => exact ⟨fault,rfl⟩

theorem Transition.setBack (id : Nat) (result : Except Error Response)
    (moved : client.Transition now (.complete id result) next effects answer)
    (coherent : client.Coherent) (awaited : client.pendingTemplate = some id)
    (unusable : Unusable client now result) :
    ∃ failures dice, client.failures = some failures ∧
      next = client.setBack (failures + 1) dice ∧
      effects = [.close (failures + 1), .startTimer client.settings.retryPause false] ∧
      answer = .none := by
  have failing := (unusable_iff result).mp unusable
  cases moved with
  | stay _ _ stays =>
    have free := (coherent.resting stays.2).1
    simp [free] at awaited
  | refused _ failures _ dice _ _ counted => exact ⟨failures,dice,counted,rfl,rfl,rfl⟩
  | kept _ _ t _ _ usable _ accepted =>
    obtain ⟨fault,refused⟩ := failing t usable
    simp [accepted] at refused
  | published _ _ t _ _ _ _ _ _ usable accepted =>
    obtain ⟨fault,refused⟩ := failing t usable
    simp [accepted] at refused
  | undelivered _ _ _ _ _ unawaited => exact absurd awaited unawaited
  | resolved _ _ _ _ free => simp [free] at awaited
  | resolvedMeanwhile _ other _ _ _ waiting different =>
    cases Option.some.inj (waiting.symm.trans awaited)
    exact absurd rfl different
  | unclaimed _ _ _ unawaited => exact absurd awaited unawaited

/-- What becomes of a result depends on the current job and the next number alone. -/
theorem submit_congr (first second : Client) (job : first.jobs.current = second.jobs.current)
    (rpc : first.rpc = second.rpc) (now : Nat) (share : JobResult) :
    (first.step now (.submit share)).effects = (second.step now (.submit share)).effects ∧
      (first.step now (.submit share)).answer = (second.step now (.submit share)).answer := by
  simp only [step,submit,job,rpc]
  cases second.jobs.current with
  | none => exact ⟨rfl,rfl⟩
  | some current =>
    dsimp only
    split
    · exact ⟨rfl,rfl⟩
    · split <;> exact ⟨rfl,rfl⟩

/-- The answer to a template request that brings no job only counts as one more failure, in 32 bits:
everything else is as before, and results for the current job go on to be taken. -/
theorem template_failure_atomic (history : List Entry) (client : Client) (run : Run history client)
    (id : Nat) (awaited : client.pendingTemplate = some id) (now : Nat)
    (result : Except Error Response) (unusable : Unusable client now result) :
    ∃ failures dice next, client.failures = some failures ∧
      next = client.setBack (failures + 1) dice ∧
      client.step now (.complete id result) =
        ⟨next, [.close (failures + 1), .startTimer client.settings.retryPause false], .none⟩ ∧
      ∀ later share,
        (next.step later (.submit share)).effects =
          (client.step later (.submit share)).effects ∧
        (next.step later (.submit share)).answer = (client.step later (.submit share)).answer ∧
        ∀ job, client.jobs.current = some job → job.id = share.jobId →
          job.candidate.target.meets share.hash = true →
          (next.step later (.submit share)).answer = .submitted (.ok client.rpc.nextId) := by
  have moved := run.coherent.transition client now (.complete id result)
  obtain ⟨failures,dice,counted,set,effects,answer⟩ :=
    moved.setBack id result run.coherent awaited unusable
  refine ⟨failures,dice,_,counted,rfl,Step.ext set effects answer,?_⟩
  intro later share
  obtain ⟨told,answered⟩ :=
    submit_congr (client.setBack (failures + 1) dice) client rfl rfl later share
  refine ⟨told,answered,?_⟩
  intro job current same met
  have submitted := run.coherent.transition client later (.submit share)
  obtain ⟨_,_,_,_,taken⟩ := submitted.submitted_met share job current same met
  exact answered.trans taken

/-- A template on the second block from which no coinbase can be made: it asks for a payload and for a
commitment. -/
def Sample.overloaded : Except Error Response :=
  .ok ⟨200, "[1,[1,\"" ++ secondBlock ++ "\",101,\"1d00ffff\",1700000000,5000000000,\"" ++
    "00000000ffff0000000000000000000000000000000000000000000000000000\"," ++
    "[],null,false,[],false,\"00\",\"00\"]]"⟩

/-- The job times out while a block is on its way, and the next template cannot be built. -/
theorem template_failure_atomic_unbuildable : ∃ history client dice next job, Run history client ∧
    client.pendingTemplate = some 3 ∧ client.state = .connected ∧ client.submissions.length = 1 ∧
      client.jobs.current = some job ∧ Unusable client 15003 Sample.overloaded ∧
      next = client.setBack 1 dice ∧
      client.step 15003 (.complete 3 Sample.overloaded) =
        ⟨next, [.close 1, .startTimer client.settings.retryPause false], .none⟩ ∧
      (next.step 15004 (.submit Sample.solution)).answer = .submitted (.ok 4) := by
  obtain ⟨before,entry,after,client,run,awaited,connected,sent,number,solved,failing⟩ :=
    exists_run _ _ Sample.run
      [(2, .submit Sample.solution), (15002, .tick)]
      (fun _ _ client => client.pendingTemplate = some 3 ∧ client.state = .connected ∧
        client.submissions.length = 1 ∧ client.rpc.nextId = 4 ∧
        (client.jobs.current.any fun job => job.id == Sample.solution.jobId &&
          job.candidate.target.meets Sample.solution.hash) = true ∧
        ((templateOf Sample.overloaded).toOption.any fun t =>
          (client.jobs.accept 15003 t).1.toOption.isNone) = true)
      (by decide +kernel)
  obtain ⟨job,current,fits⟩ := Option.any_eq_true _ _ |>.mp solved
  simp only [Bool.and_eq_true,beq_iff_eq] at fits
  obtain ⟨same,met⟩ := fits
  have unusable := Unusable.of_refused Sample.overloaded failing
  obtain ⟨failures,dice,next,counted,set,taken,kept⟩ :=
    template_failure_atomic _ client run 3 awaited 15003 _ unusable
  have none_failed := (run.coherent.working connected).1
  cases Option.some.inj (none_failed.symm.trans counted)
  have accepted := (kept 15004 Sample.solution).2.2 job current same met
  rw [number] at accepted
  exact ⟨_,client,dice,next,job,run,awaited,connected,sent,current,unusable,set,taken,accepted⟩

end Client

end SoloMining
