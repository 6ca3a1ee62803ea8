import SoloMining.Block.Candidate

/-! Jobs: the one candidate that is being worked on, under an identifier that is never used twice.
Time is counted in milliseconds. -/
namespace SoloMining

structure JobId where
  text : String
deriving DecidableEq

def JobId.ofSequence (sequence : UInt64) : JobId := ⟨Text.paddedHex 8 sequence.toNat⟩

structure Job where
  id : JobId
  algorithm : String
  created : Nat
  candidate : Candidate
deriving DecidableEq

structure JobBoard where
  builder : BlockBuilder
  algorithm : String
  timeout : Nat
  current : Option Job
  height : UInt64
  previousHash : String
  lastRefresh : Option Nat
  /-- The number of the latest job; behind the greatest number comes zero. -/
  sequence : UInt64

namespace JobBoard

def create (builder : BlockBuilder) (algorithm : String) (timeout : Nat) (sequence : UInt64) :
    JobBoard where
  builder := builder
  algorithm := algorithm
  timeout := timeout
  current := none
  height := 0
  previousHash := ""
  lastRefresh := none
  sequence := sequence

def clear (board : JobBoard) : JobBoard :=
  { board with current := none, height := 0, previousHash := "", lastRefresh := none }

def timedOut (board : JobBoard) (now : Nat) : Bool :=
  match board.lastRefresh with
  | some at_ => board.timeout < now - at_
  | none => true

def isOutdated (board : JobBoard) (now : Nat) (height : UInt64) (previousHash : String) : Bool :=
  board.current.isNone || board.height != height || board.previousHash != previousHash
    || board.timedOut now

def isExpired (board : JobBoard) (now : Nat) : Bool :=
  board.isOutdated now board.height board.previousHash

def publish (board : JobBoard) (now : Nat) (height : UInt64) (previousHash : String)
    (candidate : Candidate) : JobBoard :=
  let sequence := board.sequence + 1
  { board with
    current := some ⟨.ofSequence sequence, board.algorithm, now, candidate⟩
    height
    previousHash
    lastRefresh := some now
    sequence }

/-- Takes a template; the answer tells whether there is a new job. A template on the same block
keeps the job and only renews its time, and a template that fails changes no job. -/
def accept (board : JobBoard) (now : Nat) (t : Template) : Except Error Bool × JobBoard :=
  match t.needHeight, t.needPreviousBlockHash with
  | .error e, _ => (.error e, board)
  | .ok _, .error e => (.error e, board)
  | .ok height, .ok previousHash =>
    if board.current.isSome && board.previousHash == previousHash then
      (.ok false, { board with lastRefresh := some now })
    else
      match board.builder.build t with
      | (.error e, builder) => (.error e, { board with builder })
      | (.ok candidate, builder) =>
        (.ok true, { board with builder }.publish now height previousHash candidate)

end JobBoard

end SoloMining
