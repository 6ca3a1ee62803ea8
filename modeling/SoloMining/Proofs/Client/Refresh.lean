import SoloMining.Proofs.Client.Numbering

/-! What follows the answer to a submission. Whenever the node has answered one and no template
request is in flight, the client asks for a template at once; one in flight stands in for it. Either
way a template is received before the client is connected with nothing in flight. -/
namespace SoloMining.Client

/-- The answer is the node's own: no failure on the way to it. -/
def Conclusive (result : Except Error Response) : Prop :=
  ∀ fault, result.bind Reply.ofResponse = .error fault → fault.isRetryable = false

namespace Entry

def Asks (entry : Entry) : Prop :=
  ∃ request, .fetch request ∈ entry.effects ∧ request.rpcMethod = .getBlockTemplate

/-- The operation is the node's answer to a submission that the client waits for. -/
def Settles (entry : Entry) : Prop :=
  ∃ id result, entry.input = .complete id result ∧
    id ∈ entry.client.submissions.map (·.seq) ∧ Conclusive result

def Receives (entry : Entry) : Prop :=
  ∃ id result t isNew, entry.input = .complete id result ∧
    entry.client.pendingTemplate = some id ∧ templateOf result = .ok t ∧
    (entry.client.jobs.accept entry.now t).1 = .ok isNew

end Entry

theorem conclusive_iff (result : Except Error Response) :
    Conclusive result ↔ (submissionOutcome result).2 = false := by
  unfold Conclusive submissionOutcome
  cases read : result.bind Reply.ofResponse with
  | error fault => simp
  | ok reply => cases outcome : reply.outcome <;> simp [outcome]

instance (result : Except Error Response) : Decidable (Conclusive result) :=
  decidable_of_iff _ (conclusive_iff result).symm

instance (entry : Entry) : Decidable entry.Settles :=
  decidableReply entry.input fun id result =>
    id ∈ entry.client.submissions.map Submission.seq ∧ Conclusive result

instance (entry : Entry) : Decidable entry.Asks :=
  decidable_of_iff (entry.effects.any fun
      | .fetch request => request.rpcMethod = .getBlockTemplate
      | _ => false) (by
    rw [List.any_eq_true]
    constructor
    · rintro ⟨effect,present,asks⟩
      cases effect <;> simp at asks
      exact ⟨_,present,asks⟩
    · rintro ⟨request,present,asks⟩
      exact ⟨_,present,by simpa using asks⟩)

private theorem verdict_silent (now : Nat) (submission : Submission)
    (result : Except Error Response) (request : Request) :
    .fetch request ∉ verdict now submission result := by
  unfold verdict
  split <;> simp

/-- The answer to a submission asks for a template exactly if none is in flight, and leaves one in
flight. -/
theorem Transition.settled {entry : Entry} {next : Client} {effects : List Effect} {answer : Answer}
    (moved : entry.client.Transition entry.now entry.input next effects answer)
    (coherent : entry.client.Coherent) (numbered : entry.client.Numbered)
    (settles : entry.Settles) :
    (entry.client.pendingTemplate = none ∧ next.pendingTemplate = some entry.client.rpc.nextId ∧
      .fetch entry.client.rpc.getBlockTemplate.1 ∈ effects) ∨
    (∃ awaited, entry.client.pendingTemplate = some awaited ∧
      next.pendingTemplate = some awaited ∧ ∀ request, .fetch request ∉ effects) := by
  obtain ⟨id,result,asked,live,conclusive⟩ := settles
  have answered := (conclusive_iff result).mp conclusive
  obtain ⟨submission,member,rfl⟩ := List.mem_map.mp live
  rw [asked] at moved
  cases (moved.answered coherent numbered member).2 with
  | lost _ _ failed => simp [answered] at failed
  | asking _ free => exact .inl ⟨free,rfl,by simp⟩
  | waiting _ awaited waits =>
    exact .inr ⟨awaited,waits,waits,verdict_silent entry.now submission _⟩

/-- A client that waits for a template, or for a connection, goes on waiting until a usable template
arrives. -/
theorem Transition.waits {entry : Entry} {next : Client} {effects : List Effect} {answer : Answer}
    (moved : entry.client.Transition entry.now entry.input next effects answer)
    (waiting : entry.client.pendingTemplate.isSome ∨ entry.client.state ≠ .connected) :
    entry.Receives ∨ next.pendingTemplate.isSome ∨ next.state ≠ .connected := by
  generalize asked : entry.input = input at moved
  cases moved with
  | stay => exact .inr waiting
  | connect => exact .inr (.inl rfl)
  | disconnect => exact .inr (.inr (by simp [dropped]))
  | tick => exact .inr (.inl rfl)
  | refused => exact .inr (.inr (by simp))
  | kept id result t busy awaited usable held accepted =>
    exact .inl ⟨id,result,t,false,asked,awaited,usable,by rw [accepted]⟩
  | published id result t height previousHash candidate dice busy awaited usable accepted =>
    exact .inl ⟨id,result,t,true,asked,awaited,usable,by rw [accepted]⟩
  | undelivered => exact .inr (.inr (by simp))
  | resolved => exact .inr (.inl rfl)
  | resolvedMeanwhile => exact .inr waiting
  | unclaimed => exact .inr waiting
  | above => exact .inr waiting
  | sent => exact .inr waiting
  | generated => exact .inr waiting
  | reconfigured => exact .inr (.inr (by simp [dropped]))

/-- The node's answer to a submission asks for a template exactly if none is in flight; one in flight
stays so. By the time the client is connected with nothing in flight, it has received a template
since the answer. -/
theorem submission_refreshed (before : List Entry) (entry : Entry) (after : List Entry)
    (client : Client) (run : Run (before ++ entry :: after) client) (settles : entry.Settles) :
    (entry.Asks ↔ entry.client.pendingTemplate = none) ∧
    (∀ awaited, entry.client.pendingTemplate = some awaited →
      entry.next.pendingTemplate = some awaited) ∧
    (client.state = .connected → client.pendingTemplate = none →
      ∃ later ∈ after, later.Receives) := by
  have met := run.met before entry after client
  have settled := (met.transition entry).settled met.coherent met.numbered settles
  have waiting : entry.next.pendingTemplate.isSome := by
    rcases settled with ⟨_,asked,_⟩ | ⟨awaited,_,kept,_⟩
    · simp [asked]
    · simp [kept]
  have received : (∃ later ∈ after, later.Receives) ∨ client.pendingTemplate.isSome ∨
      client.state ≠ .connected := by
    apply run.since (fun between middle => (∃ later ∈ between, later.Receives) ∨
      middle.pendingTemplate.isSome ∨ middle.state ≠ .connected) before entry after client
    · exact .inr (.inl waiting)
    · intro between later reached earlier
      rcases earlier with ⟨past,member,received⟩ | still
      · exact .inl ⟨past,List.mem_append_left _ member,received⟩
      · rcases (reached.transition later).waits still with received | goes
        · exact .inl ⟨later,by simp,received⟩
        · exact .inr goes
  refine ⟨⟨?_,?_⟩,?_,?_⟩
  · rintro ⟨request,sent,_⟩
    rcases settled with ⟨free,_⟩ | ⟨_,_,_,silent⟩
    · exact free
    · exact absurd sent (silent request)
  · intro free
    rcases settled with ⟨_,_,sent⟩ | ⟨awaited,busy,_⟩
    · exact ⟨_,sent,rfl⟩
    · simp [free] at busy
  · intro awaited busy
    rcases settled with ⟨free,_⟩ | ⟨other,same,kept,_⟩
    · simp [free] at busy
    · rw [kept,← same,busy]
  · intro connected free
    rcases received with found | pending | apart
    · exact found
    · simp [free] at pending
    · exact absurd connected apart

/-- The job times out while a block is on its way, and the node answers the block first. -/
private theorem overtaken_run : ∃ before entry after client,
    Run (before ++ entry :: after) client ∧ entry.Settles ∧ client.state = .connected ∧
      client.pendingTemplate = none ∧ entry.client.pendingTemplate = some 3 ∧
      ∀ later ∈ entry :: after, ¬ later.Asks :=
  exists_run _ _ Sample.run
    [(2, .submit Sample.solution), (15002, .tick), (15003, .complete 2 Sample.taken),
      (15004, .complete 3 (Sample.renewal Sample.firstBlock))]
    (fun entry after client => entry.Settles ∧ client.state = .connected ∧
      client.pendingTemplate = none ∧ entry.client.pendingTemplate = some 3 ∧
      ∀ later ∈ entry :: after, ¬ later.Asks)
    (by decide +kernel)

theorem submission_refreshed_overtaken : ∃ before entry after client,
    Run (before ++ entry :: after) client ∧ entry.Settles ∧ client.state = .connected ∧
      client.pendingTemplate = none ∧ entry.client.pendingTemplate = some 3 ∧ ¬ entry.Asks ∧
      entry.next.pendingTemplate = some 3 ∧ ∃ later ∈ after, later.Receives := by
  obtain ⟨before,entry,after,client,run,settles,connected,free,busy,_⟩ := overtaken_run
  obtain ⟨asks,kept,received⟩ := submission_refreshed before entry after client run settles
  refine ⟨before,entry,after,client,run,settles,connected,free,busy,?_,kept 3 busy,
    received connected free⟩
  intro asked
  have none_pending := asks.mp asked
  simp [busy] at none_pending

/-- The client does not ask again for a template that was already in flight when the node answered
the submission, so the template it works on may be older than the answer. -/
theorem refresh_not_repeated :
    ¬ ∀ before entry after client, Run (before ++ entry :: after) client → entry.Settles →
      client.state = .connected → client.pendingTemplate = none →
      ∃ later ∈ entry :: after, later.Asks := by
  intro always
  obtain ⟨before,entry,after,client,run,settles,connected,free,_,silent⟩ := overtaken_run
  obtain ⟨later,member,asks⟩ := always before entry after client run settles connected free
  exact silent later member asks

end SoloMining.Client
