import SoloMining.Proofs.Client.Run
import SoloMining.Proofs.Fallible
import SoloMining.Proofs.Job

/-! Everything that one operation can do, said once. Later modules go through these cases and do not
open the operations again. -/
namespace SoloMining.Client

attribute [ext] Step

structure Coherent (client : Client) : Prop where
  counting : client.failures = none ↔ client.state = .unconnected
  resting : client.state = .unconnected → client.pendingTemplate = none ∧ client.submissions = [] ∧
    client.diagnostics = [] ∧ client.jobs.clear = client.jobs
  working : client.state = .connected → client.failures = some 0 ∧ client.jobs.current.isSome

def dropped (client : Client) : Client :=
  { client with
    state := .unconnected
    failures := none
    pendingTemplate := none
    submissions := []
    diagnostics := []
    jobs := client.jobs.clear }

def greeting (client : Client) : List Effect :=
  if client.state = .connected then []
  else [.login, .startTimer client.settings.pollInterval true]

def verdict (now : Nat) (submission : Submission) (result : Except Error Response) : List Effect :=
  if submission.devRound then []
  else [.result (submission.report now) (submissionOutcome result).1]

def record (client : Client) (now : Nat) (job : Job) (result : JobResult) : Submission :=
  ⟨client.rpc.nextId, result.difficulty, result.actualDifficulty, result.backend,
   job.candidate.devRound, now⟩

/-- When an operation changes nothing, does nothing, and what it answers. -/
def Stays (client : Client) (now : Nat) : Input → Answer → Prop
  | .connect, answer => answer = .none ∧ client.state ≠ .unconnected
  | .disconnect, answer => answer = .none ∧ client.state = .unconnected
  | .tick, answer => answer = .none ∧ (client.state = .unconnected ∨
      client.pendingTemplate.isSome ∨
      client.state = .connected ∧ client.jobs.isExpired now = false)
  | .complete _ _, answer => answer = .none ∧ client.state = .unconnected
  | .submit result, answer => answer = .submitted (.error .notCurrent) ∧
      ∀ job, client.jobs.current = some job → job.id ≠ result.jobId
  | .generate _, answer => answer = .generated (.error (.invalidState .generateUnconnected)) ∧
      client.state = .unconnected
  | .reconfigure settings entropy, answer => ∃ fault, answer = .reconfigured (.error fault) ∧
      jobBoard settings entropy client.jobs.sequence = .error fault

inductive Transition (client : Client) (now : Nat) :
    Input → Client → List Effect → Answer → Prop
  | stay (input : Input) (answer : Answer) (stays : client.Stays now input answer) :
      Transition client now input client [] answer
  | connect (idle : client.state = .unconnected) :
      Transition client now .connect
        { client with
          state := .connecting
          failures := some 0
          rpc := client.rpc.getBlockTemplate.2
          pendingTemplate := some client.rpc.nextId }
        [.fetch client.rpc.getBlockTemplate.1] .none
  | disconnect (busy : client.state ≠ .unconnected) :
      Transition client now .disconnect client.dropped [.stopTimer] .none
  | tick (busy : client.state ≠ .unconnected) (free : client.pendingTemplate = none)
      (due : client.state = .connected → client.jobs.isExpired now = true) :
      Transition client now .tick
        { client with
          rpc := client.rpc.getBlockTemplate.2
          pendingTemplate := some client.rpc.nextId }
        [.fetch client.rpc.getBlockTemplate.1] .none
  | refused (id : Nat) (failures : UInt32) (result : Except Error Response) (dice : Dice)
      (busy : client.state ≠ .unconnected) (awaited : client.pendingTemplate = some id)
      (counted : client.failures = some failures)
      (unusable : ∀ t, templateOf result = .ok t →
        ∃ fault, client.jobs.accept now t =
          (.error fault, { client.jobs with builder.dice := dice })) :
      Transition client now (.complete id result)
        { client with
          pendingTemplate := none
          jobs.builder.dice := dice
          failures := some (failures + 1)
          state := .connecting }
        [.close (failures + 1), .startTimer client.settings.retryPause false] .none
  | kept (id : Nat) (result : Except Error Response) (t : Template)
      (busy : client.state ≠ .unconnected) (awaited : client.pendingTemplate = some id)
      (usable : templateOf result = .ok t) (held : client.jobs.current.isSome)
      (accepted : client.jobs.accept now t =
        (.ok false, { client.jobs with lastRefresh := some now })) :
      Transition client now (.complete id result)
        { client with
          pendingTemplate := none
          jobs := { client.jobs with lastRefresh := some now }
          failures := some 0
          state := .connected }
        client.greeting .none
  | published (id : Nat) (result : Except Error Response) (t : Template) (height : UInt64)
      (previousHash : String) (candidate : Candidate) (dice : Dice)
      (busy : client.state ≠ .unconnected) (awaited : client.pendingTemplate = some id)
      (usable : templateOf result = .ok t)
      (accepted : client.jobs.accept now t =
        (.ok true,
          { client.jobs with builder.dice := dice }.publish now height previousHash candidate)) :
      Transition client now (.complete id result)
        { client with
          pendingTemplate := none
          jobs :=
            { client.jobs with builder.dice := dice }.publish now height previousHash candidate
          failures := some 0
          state := .connected }
        (client.greeting ++ [.reward candidate.reward,
          .job ⟨.ofSequence (client.jobs.sequence + 1), client.jobs.algorithm, now, candidate⟩])
        .none
  | undelivered (id : Nat) (failures : UInt32) (result : Except Error Response)
      (submission : Submission) (busy : client.state ≠ .unconnected)
      (unawaited : client.pendingTemplate ≠ some id)
      (found : client.submissions.find? (·.seq == id) = some submission)
      (counted : client.failures = some failures) (failed : (submissionOutcome result).2 = true) :
      Transition client now (.complete id result)
        { client with
          submissions := client.submissions.filter (·.seq != id)
          failures := some (failures + 1)
          state := .connecting }
        (verdict now submission result ++
          [.close (failures + 1), .startTimer client.settings.retryPause false]) .none
  | resolved (id : Nat) (result : Except Error Response) (submission : Submission)
      (busy : client.state ≠ .unconnected) (free : client.pendingTemplate = none)
      (found : client.submissions.find? (·.seq == id) = some submission)
      (answered : (submissionOutcome result).2 = false) :
      Transition client now (.complete id result)
        { client with
          submissions := client.submissions.filter (·.seq != id)
          rpc := client.rpc.getBlockTemplate.2
          pendingTemplate := some client.rpc.nextId }
        (verdict now submission result ++ [.fetch client.rpc.getBlockTemplate.1]) .none
  | resolvedMeanwhile (id awaited : Nat) (result : Except Error Response) (submission : Submission)
      (busy : client.state ≠ .unconnected) (waiting : client.pendingTemplate = some awaited)
      (other : awaited ≠ id) (found : client.submissions.find? (·.seq == id) = some submission)
      (answered : (submissionOutcome result).2 = false) :
      Transition client now (.complete id result)
        { client with submissions := client.submissions.filter (·.seq != id) }
        (verdict now submission result) .none
  | unclaimed (id : Nat) (result : Except Error Response) (busy : client.state ≠ .unconnected)
      (unawaited : client.pendingTemplate ≠ some id)
      (absent : client.submissions.find? (·.seq == id) = none) :
      Transition client now (.complete id result)
        { client with diagnostics := client.diagnostics.filter (· != id) } [] .none
  | above (result : JobResult) (job : Job) (current : client.jobs.current = some job)
      (same : job.id = result.jobId) (missed : job.candidate.target.meets result.hash = false) :
      Transition client now (.submit result) client
        (if job.candidate.devRound then [] else [.result result.partialReport .partialShare])
        (.submitted (.error .partialShare))
  | sent (result : JobResult) (job : Job) (current : client.jobs.current = some job)
      (same : job.id = result.jobId) (met : job.candidate.target.meets result.hash = true) :
      Transition client now (.submit result)
        { client with
          rpc := (client.rpc.submitBlock (job.candidate.blockHex result.nonce)).2
          submissions := client.record now job result :: client.submissions }
        [.fetch (client.rpc.submitBlock (job.candidate.blockHex result.nonce)).1]
        (.submitted (.ok client.rpc.nextId))
  | generated (blocks : UInt32) (busy : client.state ≠ .unconnected) :
      Transition client now (.generate blocks)
        { client with
          rpc := (client.rpc.generateToAddress blocks client.settings.address.mining).2
          diagnostics := client.rpc.nextId :: client.diagnostics }
        [.fetch (client.rpc.generateToAddress blocks client.settings.address.mining).1]
        (.generated (.ok client.rpc.nextId))
  | reconfigured (settings : ClientSettings) (entropy : UInt64) (jobs : JobBoard)
      (usable : jobBoard settings entropy client.jobs.sequence = .ok jobs) :
      Transition client now (.reconfigure settings entropy)
        { client.dropped with
          settings
          rpc := client.rpc.reconfigure settings.endpoint settings.credentials
          jobs }
        (if client.state = .unconnected then [] else [.stopTimer]) (.reconfigured (.ok ()))

variable (client : Client) (now : Nat)

private theorem connect_transition :
    client.Transition now .connect client.connect.1 client.connect.2 .none := by
  cases state : client.state with
  | unconnected =>
    simp only [connect,state]
    exact .connect state
  | connecting =>
    simp only [connect,state]
    exact .stay _ _ ⟨rfl,by simp [state]⟩
  | connected =>
    simp only [connect,state]
    exact .stay _ _ ⟨rfl,by simp [state]⟩

private theorem disconnect_eq_dropped (busy : client.state ≠ .unconnected) :
    client.disconnect = (client.dropped,[.stopTimer]) := by
  unfold disconnect
  split
  next idle => contradiction
  next => rfl

private theorem disconnect_transition :
    client.Transition now .disconnect client.disconnect.1 client.disconnect.2 .none := by
  by_cases idle : client.state = .unconnected
  · simp only [disconnect,idle]
    exact .stay _ _ ⟨rfl,idle⟩
  · rw [disconnect_eq_dropped client idle]
    exact .disconnect idle

private theorem tick_transition :
    client.Transition now .tick (client.tick now).1 (client.tick now).2 .none := by
  unfold tick
  split
  next state free => exact .tick (by simp [state]) free (by simp [state])
  next state free =>
    split
    next expired => exact .tick (by simp [state]) free fun _ => expired
    next fresh => exact .stay _ _ ⟨rfl,.inr (.inr ⟨state,by simpa using fresh⟩)⟩
  next connecting connected =>
    refine .stay _ _ ⟨rfl,?_⟩
    cases state : client.state with
    | unconnected => exact .inl rfl
    | connecting => exact .inr (.inl (Option.ne_none_iff_isSome.mp (connecting state)))
    | connected => exact .inr (.inl (Option.ne_none_iff_isSome.mp (connected state)))

private theorem retry_counted (failures : UInt32) (counted : client.failures = some failures) :
    client.retry = ({ client with failures := some (failures + 1), state := .connecting },
      [.close (failures + 1), .startTimer client.settings.retryPause false]) := by
  simp only [retry,counted]

private theorem login_coherent (working : client.state = .connected → client.failures = some 0) :
    client.login = ({ client with failures := some 0, state := .connected },client.greeting) := by
  unfold login greeting
  split
  next connected =>
    rw [if_pos connected,← connected,← working connected]
  next unready =>
    rw [if_neg unready]

theorem Coherent.counted (coherent : client.Coherent) (busy : client.state ≠ .unconnected) :
    ∃ failures, client.failures = some failures := by
  apply Option.ne_none_iff_exists'.mp
  intro absent
  exact busy (coherent.counting.mp absent)

private theorem template_transition (coherent : client.Coherent) (id : Nat)
    (result : Except Error Response) (busy : client.state ≠ .unconnected)
    (awaited : client.pendingTemplate = some id) :
    client.Transition now (.complete id result)
      ({ client with pendingTemplate := none }.handleTemplate now result).1
      ({ client with pendingTemplate := none }.handleTemplate now result).2 .none := by
  obtain ⟨failures,counted⟩ := coherent.counted client busy
  unfold handleTemplate
  split
  next fault unusable =>
    rw [retry_counted _ failures]
    · exact .refused id failures result client.jobs.builder.dice busy awaited counted
        (by simp [unusable])
    · exact counted
  next t usable =>
    have taken := client.jobs.accept_accepted now t
    generalize accepted : client.jobs.accept now t = outcome at taken
    cases taken with
    | refused fault dice =>
      dsimp only
      rw [retry_counted _ failures]
      · refine .refused id failures result dice busy awaited counted ?_
        intro other same
        cases Except.ok.inj (usable.symm.trans same)
        exact ⟨fault,accepted⟩
      · exact counted
    | kept held tip =>
      dsimp only
      rw [login_coherent]
      · have quiet (jobs : JobBoard) : announce false jobs = [] := rfl
        rw [quiet,List.append_nil]
        exact .kept id result t busy awaited usable held accepted
      · exact fun connected => (coherent.working connected).1
    | published height previousHash candidate dice tip built =>
      dsimp only
      rw [login_coherent]
      · exact .published id result t height previousHash candidate dice busy awaited usable
          accepted
      · exact fun connected => (coherent.working connected).1

private theorem submission_transition (coherent : client.Coherent) (id : Nat)
    (result : Except Error Response) (submission : Submission)
    (busy : client.state ≠ .unconnected) (unawaited : client.pendingTemplate ≠ some id)
    (found : client.submissions.find? (·.seq == id) = some submission) :
    client.Transition now (.complete id result)
      ({ client with submissions := client.submissions.filter (·.seq != id) }.handleSubmission
        now submission result).1
      ({ client with submissions := client.submissions.filter (·.seq != id) }.handleSubmission
        now submission result).2 .none := by
  obtain ⟨failures,counted⟩ := coherent.counted client busy
  simp only [handleSubmission]
  cases failed : (submissionOutcome result).2 with
  | true =>
    simp only [if_true]
    rw [retry_counted _ failures]
    · exact .undelivered id failures result submission busy unawaited found counted failed
    · exact counted
  | false =>
    simp only [Bool.false_eq_true,if_false]
    cases pending : client.pendingTemplate with
    | none => exact .resolved id result submission busy pending found failed
    | some awaited =>
      have other : awaited ≠ id := by
        intro same
        exact unawaited (pending.trans (congrArg some same))
      have taken : client.Transition now (.complete id result) _ _ .none :=
        .resolvedMeanwhile id awaited result submission busy pending other found failed
      simpa [verdict,pending] using taken

private theorem complete_transition (coherent : client.Coherent) (id : Nat)
    (result : Except Error Response) :
    client.Transition now (.complete id result) (client.complete now id result).1
      (client.complete now id result).2 .none := by
  unfold complete
  split
  next idle => exact .stay _ _ ⟨rfl,idle⟩
  next busy =>
    split
    next awaited => exact template_transition client now coherent id result busy awaited
    next unawaited =>
      split
      next submission found =>
        exact submission_transition client now coherent id result submission busy unawaited found
      next absent => exact .unclaimed id result busy unawaited absent

private theorem submit_transition (result : JobResult) :
    client.Transition now (.submit result) (client.submit now result).2.1
      (client.submit now result).2.2 (.submitted (client.submit now result).1) := by
  unfold submit
  split
  next absent =>
    refine .stay _ _ ⟨rfl,?_⟩
    intro job current
    simp [absent] at current
  next job current =>
    split
    next different =>
      refine .stay _ _ ⟨rfl,?_⟩
      intro other present
      cases Option.some.inj (current.symm.trans present)
      exact different
    next same =>
      have agreed : job.id = result.jobId := not_not.mp same
      split
      next missed => exact .above result job current agreed (by simpa using missed)
      next met => exact .sent result job current agreed (by simpa using met)

private theorem generate_transition (blocks : UInt32) :
    client.Transition now (.generate blocks) (client.generate blocks).2.1
      (client.generate blocks).2.2 (.generated (client.generate blocks).1) := by
  unfold generate
  split
  next idle => exact .stay _ _ ⟨rfl,idle⟩
  next busy => exact .generated blocks busy

/-- A client at rest has nothing to drop. -/
theorem Coherent.dropped_eq (coherent : client.Coherent) (idle : client.state = .unconnected) :
    client.dropped = client := by
  obtain ⟨pending,submissions,diagnostics,jobs⟩ := coherent.resting idle
  have failures := coherent.counting.mpr idle
  cases client
  simp_all [dropped]

private theorem Coherent.disconnect_eq (coherent : client.Coherent) :
    client.disconnect =
      (client.dropped,if client.state = .unconnected then [] else [.stopTimer]) := by
  by_cases idle : client.state = .unconnected
  · simp only [disconnect,idle,coherent.dropped_eq client idle,if_true]
  · rw [disconnect_eq_dropped client idle,if_neg idle]

private theorem reconfigure_transition (coherent : client.Coherent) (settings : ClientSettings)
    (entropy : UInt64) :
    client.Transition now (.reconfigure settings entropy)
      (client.step now (.reconfigure settings entropy)).client
      (client.step now (.reconfigure settings entropy)).effects
      (client.step now (.reconfigure settings entropy)).answer := by
  cases usable : jobBoard settings entropy client.jobs.sequence with
  | error fault =>
    simp only [step,reconfigure,usable]
    exact .stay _ _ ⟨fault,rfl,usable⟩
  | ok jobs =>
    simp only [step,reconfigure,usable,coherent.disconnect_eq client]
    exact .reconfigured settings entropy jobs usable

/-- Every operation of a coherent client is one of the transitions. -/
theorem Coherent.transition (coherent : client.Coherent) (input : Input) :
    client.Transition now input (client.step now input).client (client.step now input).effects
      (client.step now input).answer := by
  cases input with
  | connect => exact connect_transition client now
  | disconnect => exact disconnect_transition client now
  | tick => exact tick_transition client now
  | complete id result => exact complete_transition client now coherent id result
  | submit result => exact submit_transition client now result
  | generate blocks => exact generate_transition client now blocks
  | reconfigure settings entropy =>
    exact reconfigure_transition client now coherent settings entropy

variable {client now}

theorem Coherent.jobless (coherent : client.Coherent) (idle : client.state = .unconnected) :
    client.jobs.current = none := by
  obtain ⟨_,_,_,empty⟩ := coherent.resting idle
  rw [← empty]
  rfl

theorem jobBoard_eq_ok (settings : ClientSettings) (entropy sequence : UInt64)
    (jobs : JobBoard) : jobBoard settings entropy sequence = .ok jobs ↔
      ∃ payee, Payee.resolve settings.address settings.coin = .ok payee ∧
        JobBoard.create
          (.create payee settings.devFeePercent (.ofSeed (settings.seed.getD entropy)))
          (settings.algorithm.getD payee.coin.algorithm) settings.jobTimeout sequence = jobs := by
  simp only [jobBoard,bind_eq_ok,pure_eq_ok]

theorem create_eq_ok (settings : ClientSettings) (entropy : UInt64) :
    create settings entropy = .ok client ↔ ∃ jobs, jobBoard settings entropy 0 = .ok jobs ∧
      ⟨settings,.create settings.endpoint settings.credentials,jobs,.unconnected,none,none,[],[]⟩ =
        client := by
  simp only [create,bind_eq_ok,pure_eq_ok]

/-- A new job board is empty and goes on with the sequence it is given. -/
theorem jobBoard_fresh (settings : ClientSettings) (entropy sequence : UInt64)
    (jobs : JobBoard) (made : jobBoard settings entropy sequence = .ok jobs) :
    jobs.clear = jobs ∧ jobs.current = none ∧ jobs.sequence = sequence := by
  obtain ⟨payee,_,rfl⟩ := (jobBoard_eq_ok settings entropy sequence jobs).mp made
  exact ⟨rfl,rfl,rfl⟩

theorem create_coherent (settings : ClientSettings) (entropy : UInt64)
    (made : create settings entropy = .ok client) :
    client.Coherent ∧ client.state = .unconnected ∧ client.rpc.nextId = 1 ∧
      client.jobs.sequence = 0 := by
  obtain ⟨jobs,board,rfl⟩ := (create_eq_ok settings entropy).mp made
  obtain ⟨empty,_,sequence⟩ := jobBoard_fresh settings entropy 0 jobs board
  exact ⟨⟨by simp,by simp [empty],by simp⟩,rfl,rfl,sequence⟩

theorem Transition.coherent {input : Input} {next : Client} {effects : List Effect}
    {answer : Answer} (moved : client.Transition now input next effects answer)
    (coherent : client.Coherent) : next.Coherent := by
  have jobless := coherent.jobless
  obtain ⟨counting,resting,working⟩ := coherent
  cases moved with
  | stay => exact ⟨counting,resting,working⟩
  | connect idle => exact ⟨by simp,by simp,by simp⟩
  | disconnect busy => exact ⟨by simp [dropped],by simp [dropped,JobBoard.clear],by simp [dropped]⟩
  | tick busy free due => exact ⟨counting,by simp [busy],working⟩
  | refused => exact ⟨by simp,by simp,by simp⟩
  | kept id result t busy awaited usable held accepted => exact ⟨by simp,by simp,by simpa using held⟩
  | published => exact ⟨by simp,by simp,by simp [JobBoard.publish]⟩
  | undelivered => exact ⟨by simp,by simp,by simp⟩
  | resolved id result submission busy => exact ⟨counting,by simp [busy],working⟩
  | resolvedMeanwhile id awaited result submission busy =>
    exact ⟨counting,by simp [busy],working⟩
  | unclaimed id result busy => exact ⟨counting,by simp [busy],working⟩
  | above => exact ⟨counting,resting,working⟩
  | sent result job current =>
    refine ⟨counting,?_,working⟩
    intro idle
    cases (jobless idle).symm.trans current
  | generated blocks busy => exact ⟨counting,by simp [busy],working⟩
  | reconfigured settings entropy jobs usable =>
    obtain ⟨empty,_,_⟩ := jobBoard_fresh settings entropy _ jobs usable
    exact ⟨by simp [dropped],by simp [dropped,empty],by simp [dropped]⟩

theorem Run.coherent {history : List Entry} (run : Run history client) : client.Coherent := by
  induction run with
  | create settings entropy client made => exact (create_coherent settings entropy made).1
  | step history entry earlier ih => exact (ih.transition _ entry.now entry.input).coherent ih

/-- What the next operation of a run does. -/
theorem Run.transition {history : List Entry} (entry : Entry) (run : Run history entry.client) :
    entry.client.Transition entry.now entry.input entry.next entry.effects entry.answer :=
  run.coherent.transition entry.client entry.now entry.input

end SoloMining.Client
