import SoloMining.Proofs.Client.Transition

/-! A client at rest. Whatever a client has been through, once it is unconnected it is as it was
made from its settings; only the numbers of requests and jobs have gone on, and the dice. -/
namespace SoloMining

attribute [ext] Client

namespace Client

/-- The counters and the dice of another client, and else this one. -/
def countingOn (client other : Client) : Client :=
  { client with
    rpc.nextId := other.rpc.nextId
    jobs.sequence := other.jobs.sequence
    jobs.builder.dice := other.jobs.builder.dice }

structure Vacant (client : Client) : Prop where
  template : client.pendingTemplate = none
  submissions : client.submissions = []
  diagnostics : client.diagnostics = []
  job : client.jobs.current = none
  height : client.jobs.height = 0
  previousHash : client.jobs.previousHash = ""
  refresh : client.jobs.lastRefresh = none

structure Configured (client : Client) : Prop where
  wired : client.rpc =
    { RpcClient.create client.settings.endpoint client.settings.credentials with
      nextId := client.rpc.nextId }
  stocked : ∃ payee, Payee.resolve client.settings.address client.settings.coin = .ok payee ∧
    client.jobs.clear = JobBoard.create
      (.create payee client.settings.devFeePercent client.jobs.builder.dice)
      (client.settings.algorithm.getD payee.coin.algorithm) client.settings.jobTimeout
      client.jobs.sequence

variable {client next : Client} {now : Nat} {input : Input} {effects : List Effect}
  {answer : Answer}

theorem create_configured (settings : ClientSettings) (entropy : UInt64)
    (made : create settings entropy = .ok client) : client.Configured := by
  obtain ⟨jobs,board,rfl⟩ := (create_eq_ok settings entropy).mp made
  obtain ⟨payee,resolved,rfl⟩ := (jobBoard_eq_ok settings entropy 0 jobs).mp board
  exact ⟨rfl,payee,resolved,rfl⟩

/-- What a board keeps when its work is dropped is all that its settings and counters make of it. -/
theorem Configured.restocked (configured : client.Configured) (settings : next.settings = client.settings)
    (wired : next.rpc = { client.rpc with nextId := next.rpc.nextId })
    (stocked : next.jobs.clear = { client.jobs.clear with
      sequence := next.jobs.sequence
      builder.dice := next.jobs.builder.dice }) : next.Configured := by
  obtain ⟨linked,payee,resolved,made⟩ := configured
  refine ⟨?_,payee,?_,?_⟩
  · rw [wired,linked,settings]
  · rw [settings,resolved]
  · rw [stocked,made,settings]
    rfl

theorem Transition.configured (moved : client.Transition now input next effects answer)
    (configured : client.Configured) : next.Configured := by
  cases moved with
  | reconfigured settings entropy jobs usable =>
    obtain ⟨payee,resolved,rfl⟩ := (jobBoard_eq_ok settings entropy _ jobs).mp usable
    exact ⟨rfl,payee,resolved,rfl⟩
  | stay | connect | disconnect | tick | refused | kept | published | undelivered | resolved
  | resolvedMeanwhile | unclaimed | above | sent | generated =>
    exact configured.restocked rfl rfl rfl

theorem Run.configured {history : List Entry} (run : Run history client) : client.Configured := by
  induction run with
  | create settings entropy client made => exact create_configured settings entropy made
  | step history entry earlier ih => exact (earlier.transition entry).configured ih

theorem Coherent.vacant (coherent : client.Coherent) (idle : client.state = .unconnected) :
    client.Vacant := by
  obtain ⟨template,submissions,diagnostics,empty⟩ := coherent.resting idle
  exact ⟨template,submissions,diagnostics,by rw [← empty]; rfl,by rw [← empty]; rfl,
    by rw [← empty]; rfl,by rw [← empty]; rfl⟩

/-- At rest the settings tell everything but the counters and the dice. -/
theorem Configured.renewed (configured : client.Configured) (coherent : client.Coherent)
    (idle : client.state = .unconnected) (entropy : UInt64) :
    ∃ fresh, create client.settings entropy = .ok fresh ∧ client = fresh.countingOn client := by
  obtain ⟨wired,payee,resolved,stocked⟩ := configured
  obtain ⟨template,submissions,diagnostics,empty⟩ := coherent.resting idle
  have failures := coherent.counting.mpr idle
  have board := (jobBoard_eq_ok client.settings entropy 0 _).mpr ⟨payee,resolved,rfl⟩
  refine ⟨_,(create_eq_ok client.settings entropy).mpr ⟨_,board,rfl⟩,?_⟩
  rw [empty] at stocked
  exact Client.ext rfl wired stocked idle failures template submissions diagnostics

/-- A client is unconnected exactly while it counts no failures, and then it is as new; a connected
one has no failures and a job. -/
theorem rest_renewed (history : List Entry) (client : Client) (run : Run history client) :
    (client.state = .unconnected ↔ client.failures = none) ∧
    (client.state = .unconnected → client.Vacant ∧ ∀ entropy, ∃ fresh,
      create client.settings entropy = .ok fresh ∧ client = fresh.countingOn client) ∧
    (client.state = .connected → client.failures = some 0 ∧ client.jobs.current.isSome) := by
  have coherent := run.coherent
  refine ⟨coherent.counting.symm,?_,coherent.working⟩
  intro idle
  exact ⟨coherent.vacant idle,run.configured.renewed coherent idle⟩

/-- The client leaves with a job, a submission and a diagnostic call. -/
theorem rest_renewed_disconnected : ∃ history client fresh, Run history client ∧
    client.state = .unconnected ∧ client.rpc.nextId = 4 ∧ client.jobs.sequence = 1 ∧
      client.failures = none ∧ client.Vacant ∧ create client.settings 7 = .ok fresh ∧
      client = fresh.countingOn client := by
  obtain ⟨before,entry,after,client,run,idle,requests,jobs⟩ := exists_run _ _ Sample.run
    [(2, .submit Sample.solution), (3, .generate 5), (4, .disconnect)]
    (fun _ _ client => client.state = .unconnected ∧ client.rpc.nextId = 4 ∧
      client.jobs.sequence = 1)
    (by decide +kernel)
  obtain ⟨counting,renewed,_⟩ := rest_renewed _ client run
  obtain ⟨vacant,anew⟩ := renewed idle
  obtain ⟨fresh,made,same⟩ := anew 7
  exact ⟨_,client,fresh,run,idle,requests,jobs,counting.mp idle,vacant,made,same⟩

end Client

end SoloMining
