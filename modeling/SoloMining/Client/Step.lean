import SoloMining.Client.Basic

/-! The operations of a mining client. Each takes the client and gives the next one together with
the effects of the operation; `now` is the time in milliseconds. -/
namespace SoloMining.Client

/-- The job board of some settings. `entropy` seeds the draw of dev rounds unless the settings do. -/
def jobBoard (settings : ClientSettings) (entropy sequence : UInt64) : Except Error JobBoard := do
  let payee ← Payee.resolve settings.address settings.coin
  let dice := Dice.ofSeed (settings.seed.getD entropy)
  let builder := BlockBuilder.create payee settings.devFeePercent dice
  pure (JobBoard.create builder (settings.algorithm.getD payee.coin.algorithm)
    settings.jobTimeout sequence)

def create (settings : ClientSettings) (entropy : UInt64) : Except Error Client := do
  let jobs ← jobBoard settings entropy 0
  pure {
    settings
    rpc := RpcClient.create settings.endpoint settings.credentials
    jobs
    state := .unconnected
    failures := none
    pendingTemplate := none
    submissions := []
    diagnostics := [] }

def requestTemplate (client : Client) : Client × List Effect :=
  let (request, rpc) := client.rpc.getBlockTemplate
  ({ client with rpc, pendingTemplate := some request.id }, [.fetch request])

def connect (client : Client) : Client × List Effect :=
  match client.state with
  | .unconnected => requestTemplate { client with state := .connecting, failures := some 0 }
  | _ => (client, [])

def disconnect (client : Client) : Client × List Effect :=
  match client.state with
  | .unconnected => (client, [])
  | _ =>
    ({ client with
        state := .unconnected
        failures := none
        pendingTemplate := none
        submissions := []
        diagnostics := []
        jobs := client.jobs.clear },
     [.stopTimer])

def reconfigure (client : Client) (settings : ClientSettings) (entropy : UInt64) :
    Except Error (Client × List Effect) := do
  let jobs ← jobBoard settings entropy client.jobs.sequence
  let (idle, effects) := client.disconnect
  pure ({ idle with
      settings
      rpc := idle.rpc.reconfigure settings.endpoint settings.credentials
      jobs },
    effects)

def tick (client : Client) (now : Nat) : Client × List Effect :=
  match client.state, client.pendingTemplate with
  | .connecting, none => client.requestTemplate
  | .connected, none => if client.jobs.isExpired now then client.requestTemplate else (client, [])
  | _, _ => (client, [])

def retry (client : Client) : Client × List Effect :=
  match client.failures with
  | none => (client, [])
  | some failures =>
    ({ client with failures := some (failures + 1), state := .connecting },
     [.close (failures + 1), .startTimer client.settings.retryPause false])

def templateOf (result : Except Error Response) : Except Error Template := do
  let response ← result
  let reply ← Reply.ofResponse response
  let value ← reply.outcome
  Template.ofJson value

def login (client : Client) : Client × List Effect :=
  match client.state with
  | .connected => (client, [])
  | _ =>
    ({ client with state := .connected, failures := some 0 },
     [.login, .startTimer client.settings.pollInterval true])

def announce (isNew : Bool) (jobs : JobBoard) : List Effect :=
  match isNew, jobs.current with
  | true, some job => [.reward job.candidate.reward, .job job]
  | _, _ => []

def handleTemplate (client : Client) (now : Nat) (result : Except Error Response) :
    Client × List Effect :=
  match templateOf result with
  | .error _ => client.retry
  | .ok t =>
    match client.jobs.accept now t with
    | (.error _, jobs) => { client with jobs }.retry
    | (.ok isNew, jobs) =>
      let (next, effects) := { client with jobs }.login
      (next, effects ++ announce isNew jobs)

/-- The status of a submission, and whether the way to the node failed. -/
def submissionOutcome (result : Except Error Response) : ShareStatus × Bool :=
  match result.bind Reply.ofResponse with
  | .error e => (.rejected e.message, e.isRetryable)
  | .ok reply =>
    match reply.outcome with
    | .error e => (.rejected e.message, false)
    | .ok value => (.ofResult value, false)

/-- Dev rounds are not reported. A submission that reached the node makes a template request,
unless one is under way. -/
def handleSubmission (client : Client) (now : Nat) (submission : Submission)
    (result : Except Error Response) : Client × List Effect :=
  let (status, failed) := submissionOutcome result
  let reports : List Effect :=
    if submission.devRound then [] else [.result (submission.report now) status]
  let (next, effects) :=
    if failed then client.retry
    else match client.pendingTemplate with
      | none => client.requestTemplate
      | some _ => (client, [])
  (next, reports ++ effects)

def complete (client : Client) (now id : Nat) (result : Except Error Response) :
    Client × List Effect :=
  if client.state = .unconnected then (client, [])
  else if client.pendingTemplate = some id then
    { client with pendingTemplate := none }.handleTemplate now result
  else
    match client.submissions.find? (·.seq == id) with
    | some submission =>
      { client with submissions := client.submissions.filter (·.seq != id) }.handleSubmission
        now submission result
    | none => ({ client with diagnostics := client.diagnostics.filter (· != id) }, [])

def submit (client : Client) (now : Nat) (result : JobResult) :
    Except SubmitRejection Nat × Client × List Effect :=
  match client.jobs.current with
  | none => (.error .notCurrent, client, [])
  | some job =>
    if job.id ≠ result.jobId then (.error .notCurrent, client, [])
    else if !job.candidate.target.meets result.hash then
      let reports : List Effect :=
        if job.candidate.devRound then [] else [.result result.partialReport .partialShare]
      (.error .partialShare, client, reports)
    else
      let (request, rpc) := client.rpc.submitBlock (job.candidate.blockHex result.nonce)
      let submission : Submission :=
        ⟨request.id, result.difficulty, result.actualDifficulty, result.backend,
         job.candidate.devRound, now⟩
      (.ok request.id, { client with rpc, submissions := submission :: client.submissions },
       [.fetch request])

/-- Asks the node to mine blocks for the mining address; the answer is not used. -/
def generate (client : Client) (blocks : UInt32) : Except Error Nat × Client × List Effect :=
  if client.state = .unconnected then (.error (.invalidState .generateUnconnected), client, [])
  else
    let (request, rpc) := client.rpc.generateToAddress blocks client.settings.address.mining
    (.ok request.id, { client with rpc, diagnostics := request.id :: client.diagnostics },
     [.fetch request])

def step (client : Client) (now : Nat) : Input → Step
  | .connect =>
    let (next, effects) := client.connect
    ⟨next, effects, .none⟩
  | .disconnect =>
    let (next, effects) := client.disconnect
    ⟨next, effects, .none⟩
  | .tick =>
    let (next, effects) := client.tick now
    ⟨next, effects, .none⟩
  | .complete id result =>
    let (next, effects) := client.complete now id result
    ⟨next, effects, .none⟩
  | .submit result =>
    let (outcome, next, effects) := client.submit now result
    ⟨next, effects, .submitted outcome⟩
  | .generate blocks =>
    let (outcome, next, effects) := client.generate blocks
    ⟨next, effects, .generated outcome⟩
  | .reconfigure settings entropy =>
    match client.reconfigure settings entropy with
    | .ok (next, effects) => ⟨next, effects, .reconfigured (.ok ())⟩
    | .error e => ⟨client, [], .reconfigured (.error e)⟩

end SoloMining.Client
