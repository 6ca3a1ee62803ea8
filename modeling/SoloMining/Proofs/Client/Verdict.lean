import SoloMining.Proofs.Client.Accounting
import SoloMining.Proofs.Client.Refresh
import SoloMining.Proofs.Rpc.Reply

/-! What the answer to a submitted block amounts to. A block counts as accepted only if the node says
so, and an error that the node tells goes before everything else in the answer. The connection is given
up only if the node has not been heard. -/
namespace SoloMining.Client

def Confirmed (result : Except Error Response) : Prop :=
  ∃ response reply, result = .ok response ∧ response.status = 200 ∧ response.Carries reply ∧
    reply.Approves

/-- The node has not been heard: the way to it failed, or another status came without an error of the
node. -/
inductive Lost : Except Error Response → Prop
  | undelivered (fault : Error) (retryable : fault.isRetryable = true) : Lost (.error fault)
  | unexplained (response : Response) (status : response.status ≠ 200)
      (silent : ¬ response.Complains) : Lost (.ok response)

structure Judged (result : Except Error Response) (status : ShareStatus) : Prop where
  accepted : status = .accepted ↔ Confirmed result
  rejected : ¬ Confirmed result → ∃ reason, status = .rejected reason
  /-- An error of the node goes before the status of the response and before the result. -/
  complaint : ∀ response, result = .ok response → response.Complains →
    ∃ reason, status = .rejected reason
  /-- In a body that is an object, members that are left out count as null. -/
  members : ∀ response reply members, result = .ok response → response.Carries reply →
    (Json.Document.ofText response.body).1 = .object members →
    (status = .accepted ↔ response.status = 200 ∧ Json.Lacks members "error" ∧
      (Json.Lacks members "result" ∨ ∃ text ∈ ["", "accepted", "inconclusive"],
        members.lookup (some "result") = some (.string (some text))))

structure Settled (client next : Client) (failures : UInt32) (result : Except Error Response)
    (effects : List Effect) : Prop where
  lost : Lost result ↔ next.state = .connecting ∧ next.failures = some (failures + 1) ∧
    effects = [.close (failures + 1), .startTimer client.settings.retryPause false]
  heard : ¬ Lost result → next.state = client.state ∧ next.failures = client.failures ∧
    next.pendingTemplate.isSome ∧
    effects = if client.pendingTemplate.isSome then [] else [.fetch client.rpc.getBlockTemplate.1]

theorem confirmed_ok (response : Response) (reply : Reply) (carries : response.Carries reply) :
    Confirmed (.ok response) ↔ response.status = 200 ∧ reply.Approves := by
  constructor
  · rintro ⟨_,other,⟨⟩,good,reread,approves⟩
    cases Except.ok.inj (carries.symm.trans reread)
    exact ⟨good,approves⟩
  · rintro ⟨good,approves⟩
    exact ⟨response,reply,rfl,good,carries,approves⟩

theorem not_confirmed_of_complains (response : Response) (complains : response.Complains) :
    ¬ Confirmed (.ok response) := by
  obtain ⟨reply,carries,error⟩ := complains
  rw [confirmed_ok response reply carries]
  rintro ⟨_,approves⟩
  exact error approves.harmless

theorem confirmed_iff (result : Except Error Response) :
    Confirmed result ↔ ∃ reply, result.bind Reply.ofResponse = .ok reply ∧ reply.Approves := by
  cases result with
  | error fault => simp [Confirmed,Except.bind]
  | ok response =>
    simp [Confirmed,Except.bind,Reply.ofResponse_eq_ok,Response.Carries,and_assoc]

theorem submissionOutcome_accepted (result : Except Error Response) :
    (submissionOutcome result).1 = .accepted ↔ Confirmed result := by
  rw [confirmed_iff]
  unfold submissionOutcome
  cases read : result.bind Reply.ofResponse with
  | error fault => simp
  | ok reply => cases told : reply.outcome <;> simp [Reply.approves_iff,told]

theorem lost_iff (result : Except Error Response) :
    Lost result ↔ (submissionOutcome result).2 = true := by
  rw [← Bool.not_eq_false,← conclusive_iff]
  simp only [Conclusive,not_forall,exists_prop,Bool.not_eq_false]
  cases result with
  | error fault =>
    simp only [Except.bind,Except.error.injEq,exists_eq_left']
    constructor
    · rintro (⟨_,retryable⟩ | _)
      exact retryable
    · exact .undelivered fault
  | ok response =>
    simp only [Except.bind,Reply.ofResponse_retryable]
    constructor
    · rintro (_ | ⟨_,status,silent⟩)
      exact ⟨status,silent⟩
    · rintro ⟨status,silent⟩
      exact .unexplained response status silent

variable {client next : Client}

theorem judged (result : Except Error Response) :
    Judged result (submissionOutcome result).1 := by
  have accepted := submissionOutcome_accepted result
  have rejected (unconfirmed : ¬ Confirmed result) :
      ∃ reason, (submissionOutcome result).1 = .rejected reason := by
    rw [← accepted] at unconfirmed
    have whole := submissionOutcome_ne_partialShare result
    cases status : (submissionOutcome result).1 with
    | accepted => exact absurd status unconfirmed
    | partialShare => exact absurd status whole
    | rejected reason => exact ⟨reason,rfl⟩
  refine ⟨accepted,rejected,?_,?_⟩
  · rintro response rfl complains
    exact rejected (not_confirmed_of_complains response complains)
  · rintro response reply members rfl carries object
    rw [accepted,confirmed_ok response reply carries,carries.approves members object]

theorem heard_of_answered (result : Except Error Response)
    (answered : (submissionOutcome result).2 = false) : ¬ Lost result := by
  rw [lost_iff,answered]
  exact Bool.false_ne_true

theorem Settled.of_heard {failures : UInt32} {result : Except Error Response} {effects : List Effect}
    (counted : client.failures = some failures) (heard : ¬ Lost result)
    (goes : next.state = client.state ∧ next.failures = client.failures ∧
      next.pendingTemplate.isSome ∧ effects =
        if client.pendingTemplate.isSome then [] else [.fetch client.rpc.getBlockTemplate.1]) :
    Settled client next failures result effects := by
  refine ⟨⟨fun lost => absurd lost heard,?_⟩,fun _ => goes⟩
  rintro ⟨_,failed,_⟩
  rw [goes.2.1,counted] at failed
  simp at failed

theorem Transition.settles {now : Nat} {submission : Submission} {effects : List Effect}
    {answer : Answer} (result : Except Error Response)
    (moved : client.Transition now (.complete submission.seq result) next effects answer)
    (coherent : client.Coherent) (numbered : client.Numbered)
    (live : submission ∈ client.submissions) :
    ∃ failures connection, client.failures = some failures ∧
      effects = verdict now submission result ++ connection ∧ answer = .none ∧
      Settled client next failures result connection := by
  obtain ⟨silent,answered⟩ := moved.answered coherent numbered live
  cases answered with
  | lost failures counted failed =>
    have lost := (lost_iff result).mpr failed
    exact ⟨failures,_,counted,rfl,silent,⟨fun _ => ⟨rfl,rfl,rfl⟩,fun _ => lost⟩,absurd lost⟩
  | asking busy free answered =>
    obtain ⟨failures,counted⟩ := coherent.counted client busy
    have heard := heard_of_answered result answered
    refine ⟨failures,_,counted,rfl,silent,.of_heard counted heard ?_⟩
    exact ⟨rfl,rfl,rfl,by simp [free]⟩
  | waiting busy awaited waits answered =>
    obtain ⟨failures,counted⟩ := coherent.counted client busy
    have heard := heard_of_answered result answered
    refine ⟨failures,[],counted,by simp,silent,.of_heard counted heard ?_⟩
    exact ⟨rfl,rfl,by simp [waits],by simp [waits]⟩

/-- The verdict follows from what the node says, and the connection is given up, as one more failure
in 32 bits, exactly when the node has not been heard. The verdict on a block of a dev round is kept
back, and that is all. -/
theorem submission_classified (history : List Entry) (client : Client) (run : Run history client)
    (submission : Submission) (live : submission ∈ client.submissions) (now : Nat)
    (result : Except Error Response) :
    ∃ failures next status connection, client.failures = some failures ∧
      client.step now (.complete submission.seq result) =
        ⟨next, (if submission.devRound then [] else [.result (submission.report now) status]) ++
          connection, .none⟩ ∧
      Judged result status ∧ Settled client next failures result connection := by
  have moved := run.coherent.transition client now (.complete submission.seq result)
  obtain ⟨failures,connection,counted,effects,answer,settled⟩ :=
    moved.settles result run.coherent run.numbered live
  exact ⟨failures,_,_,connection,counted,Step.ext rfl effects answer,judged result,settled⟩

namespace Sample

def gateway : Except Error Response := .ok ⟨502, "bad gateway"⟩

def complaint : Except Error Response := .ok ⟨500, "[2,null,\"bad block\"]"⟩

end Sample

/-- Both answers come with a failing status, but only the first one costs the connection. -/
theorem submission_classified_statuses : ∃ history client submission, Run history client ∧
    submission ∈ client.submissions ∧ client.state = .connected ∧
      (client.step 3 (.complete submission.seq Sample.gateway)).client.state = .connecting ∧
      (client.step 3 (.complete submission.seq Sample.complaint)).client.state = .connected ∧
      ∃ reason, .result (submission.report 3) (.rejected reason) ∈
        (client.step 3 (.complete submission.seq Sample.complaint)).effects := by
  obtain ⟨before,entry,after,client,run,connected,sent⟩ :=
    exists_run _ _ Sample.run
      [(2, .submit Sample.solution)]
      (fun _ _ client => client.state = .connected ∧
        (client.submissions.any fun submission => !submission.devRound) = true)
      (by decide +kernel)
  obtain ⟨submission,live,reported⟩ := List.any_eq_true.mp sent
  have lost : Lost Sample.gateway := (lost_iff _).mpr (by decide +kernel)
  have heard : ¬ Lost Sample.complaint := heard_of_answered _ (by decide +kernel)
  have refused : ¬ Confirmed Sample.complaint := by
    rw [← submissionOutcome_accepted]
    decide +kernel
  obtain ⟨_,_,_,_,_,broken,_,breaks⟩ :=
    submission_classified _ client run submission live 3 Sample.gateway
  obtain ⟨_,_,_,_,_,kept,verdict,stays⟩ :=
    submission_classified _ client run submission live 3 Sample.complaint
  obtain ⟨reason,rfl⟩ := verdict.rejected refused
  refine ⟨_,client,submission,run,live,connected,?_,?_,reason,?_⟩
  · rw [broken]
    exact (breaks.lost.mp lost).1
  · rw [kept]
    exact (stays.heard heard).1.trans connected
  · rw [kept]
    simp [Bool.not_eq_true' _ |>.mp reported]

end SoloMining.Client
