import SoloMining.Proofs.Client.Numbering

/-! Results of backends. In every state of the connection a result goes to the node exactly if it is
for the current job and its hash is no greater than the target that is written in the template of
that job. -/
namespace SoloMining

structure Request.Carries (request : Request) (seq : Nat) (block : String) : Prop where
  numbered : request.id = seq
  method : request.rpcMethod = .submitBlock
  body : request.body =
    (RpcClient.envelope seq .submitBlock (.ofMembers [("hexdata", .string block)])).render

namespace Client

structure Entry.Builds (entry : Entry) (job : Job) (t : Template) : Prop where
  received : ∃ id result, entry.input = .complete id result ∧ templateOf result = .ok t
  built : (entry.client.jobs.builder.build t).1 = .ok job.candidate
  handed : Effect.job job ∈ entry.effects

def BuiltFrom (history : List Entry) (job : Job) (t : Template) : Prop :=
  ∃ entry ∈ history, entry.Builds job t

variable {client next : Client} {now : Nat} {input : Input} {effects : List Effect}
  {answer : Answer} {history : List Entry}

theorem Transition.working (moved : client.Transition now input next effects answer) (job : Job)
    (current : next.jobs.current = some job) :
    client.jobs.current = some job ∨
      (∃ id result t, input = .complete id result ∧ templateOf result = .ok t ∧
        (client.jobs.builder.build t).1 = .ok job.candidate) ∧ Effect.job job ∈ effects := by
  cases moved with
  | published id result t height previousHash candidate dice _ _ usable accepted =>
    -- The template that was accepted is the one that the new job was built from.
    have built := client.jobs.accept_built _ t job accepted current
    cases Option.some.inj current
    exact .inr ⟨⟨id,result,t,rfl,usable,built⟩,by simp⟩
  | disconnect => simp [dropped,JobBoard.clear] at current
  | reconfigured settings entropy jobs usable =>
    obtain ⟨_,empty,_⟩ := jobBoard_fresh settings entropy _ jobs usable
    cases empty.symm.trans current
  | stay | connect | tick | refused | kept | undelivered | resolved | resolvedMeanwhile | unclaimed
  | above | sent | generated => exact .inl current

theorem BuiltFrom.targetNumber (job : Job) (t : Template) (built : BuiltFrom history job t) :
    t.TargetNumber job.candidate.target.toNat := by
  obtain ⟨entry,_,builds⟩ := built
  exact BlockBuilder.build_targetNumber builds.built

theorem Transition.submitted_met (result : JobResult) (job : Job)
    (moved : client.Transition now (.submit result) next effects answer)
    (current : client.jobs.current = some job) (same : job.id = result.jobId)
    (met : job.candidate.target.meets result.hash = true) :
    ∃ request : Request,
      request.Carries client.rpc.nextId (job.candidate.blockHex result.nonce) ∧
      next = { client with
        rpc := { client.rpc with nextId := client.rpc.nextId + 1 }
        submissions := client.record now job result :: client.submissions } ∧
      effects = [.fetch request] ∧ answer = .submitted (.ok client.rpc.nextId) := by
  cases moved with
  | stay _ _ stays => exact absurd same (stays.2 job current)
  | above _ other present _ missed =>
    cases Option.some.inj (current.symm.trans present)
    simp [missed] at met
  | sent _ other present =>
    cases Option.some.inj (current.symm.trans present)
    exact ⟨_,⟨rfl,rfl,rfl⟩,rfl,rfl,rfl⟩

end Client

end SoloMining
