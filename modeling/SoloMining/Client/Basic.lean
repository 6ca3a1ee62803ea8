import SoloMining.Job
import SoloMining.Rpc.Reply
import SoloMining.Rpc.Request

/-! The state of a mining client, what it is told, and what it does in return. Effects are listed in
the order in which they happen. -/
namespace SoloMining

structure ClientSettings where
  endpoint : Endpoint
  credentials : Option Credentials
  address : MiningAddress
  /-- The coin of an address that names none. -/
  coin : Coin
  /-- Replaces the algorithm of the coin. -/
  algorithm : Option String
  pollInterval : Nat
  jobTimeout : Nat
  retryPause : Nat
  devFeePercent : UInt8
  /-- Fixes the draw of dev rounds. -/
  seed : Option UInt64
deriving DecidableEq

namespace ClientSettings

def defaultPollInterval : Nat := 1000
def defaultJobTimeout : Nat := 15000
def defaultRetryPause : Nat := 5000

def create (endpoint : Endpoint) (address : MiningAddress) : ClientSettings where
  endpoint := endpoint
  credentials := none
  address := address
  coin := .raptoreum
  algorithm := none
  pollInterval := defaultPollInterval
  jobTimeout := defaultJobTimeout
  retryPause := defaultRetryPause
  devFeePercent := BlockBuilder.defaultDevFee
  seed := none

end ClientSettings

inductive ConnectionState
  | unconnected
  | connecting
  | connected
deriving DecidableEq

def ConnectionState.display : ConnectionState → String
  | .unconnected => "unconnected"
  | .connecting => "connecting"
  | .connected => "connected"

structure JobResult where
  jobId : JobId
  nonce : Nonce
  hash : Bytes32
  /-- The difficulty that the backend was asked for. -/
  difficulty : UInt64
  /-- The difficulty that the hash reaches. -/
  actualDifficulty : UInt64
  backend : UInt32
deriving DecidableEq

structure Submission where
  seq : Nat
  difficulty : UInt64
  actualDifficulty : UInt64
  backend : UInt32
  devRound : Bool
  sent : Nat
deriving DecidableEq

/-- What a backend is told about its result; results that were never sent have number zero. -/
structure ShareReport where
  seq : Nat
  difficulty : UInt64
  actualDifficulty : UInt64
  backend : UInt32
  elapsed : Nat
deriving DecidableEq

def Submission.report (submission : Submission) (now : Nat) : ShareReport :=
  ⟨submission.seq, submission.difficulty, submission.actualDifficulty, submission.backend,
   now - submission.sent⟩

def JobResult.partialReport (result : JobResult) : ShareReport :=
  ⟨0, result.difficulty, result.actualDifficulty, result.backend, 0⟩

inductive Effect
  | fetch (request : Request)
  | startTimer (delay : Nat) (repeats : Bool)
  | stopTimer
  | reward (reward : Reward)
  | job (job : Job)
  | login
  | close (failures : UInt32)
  | result (report : ShareReport) (status : ShareStatus)
deriving DecidableEq

structure Client where
  settings : ClientSettings
  rpc : RpcClient
  jobs : JobBoard
  state : ConnectionState
  /-- Failures in a row; none while unconnected. Behind the greatest number comes zero. -/
  failures : Option UInt32
  pendingTemplate : Option Nat
  submissions : List Submission
  diagnostics : List Nat

inductive Input
  | connect
  | disconnect
  | tick
  | complete (id : Nat) (result : Except Error Response)
  | submit (result : JobResult)
  | generate (blocks : UInt32)
  | reconfigure (settings : ClientSettings) (entropy : UInt64)

inductive Answer
  | none
  | submitted (outcome : Except SubmitRejection Nat)
  | generated (outcome : Except Error Nat)
  | reconfigured (outcome : Except Error Unit)

structure Step where
  client : Client
  effects : List Effect
  answer : Answer

end SoloMining
