import SoloMining.Job
import SoloMining.Proofs.Block.Candidate
import SoloMining.Proofs.Text.Radix

/-! Identifiers of jobs name the place of a job in the sequence, which 64 bits count, and a template
does one of three things to a job board. -/
namespace SoloMining

theorem JobId.ofSequence_injective : Function.Injective JobId.ofSequence := by
  intro m n same
  exact UInt64.toNat_inj.mp (Text.paddedHex_injective 8 (JobId.mk.inj same))

/-- The places that 64 bits can count have identifiers of their own. -/
theorem JobId.ofSequence_ofNat_inj {m n : Nat} (left : m < UInt64.size) (right : n < UInt64.size)
    (same : JobId.ofSequence (.ofNat m) = JobId.ofSequence (.ofNat n)) : m = n := by
  have equal := congrArg UInt64.toNat (JobId.ofSequence_injective same)
  rwa [UInt64.toNat_ofNat_of_lt' left,UInt64.toNat_ofNat_of_lt' right] at equal

namespace BlockBuilder

theorem drawDevRound_dice (builder : BlockBuilder) :
    ∃ dice, builder.drawDevRound.2 = { builder with dice } := by
  unfold drawDevRound
  split
  · exact ⟨_,rfl⟩
  · exact ⟨builder.dice,rfl⟩

theorem drawDevRound_undrawn (builder : BlockBuilder) (undrawn : builder.payee.dev = none) :
    builder.drawDevRound = (false,builder) := by
  simp [drawDevRound,undrawn]

/-- Building a block moves nothing of the builder but its dice. -/
theorem build_dice (builder : BlockBuilder) (t : Template) :
    ∃ dice, (builder.build t).2 = { builder with dice } := by
  unfold build
  split
  · exact ⟨builder.dice,rfl⟩
  · exact builder.drawDevRound_dice

theorem build_undrawn (builder : BlockBuilder) (undrawn : builder.payee.dev = none)
    (t : Template) : (builder.build t).2 = builder := by
  rw [build]
  split
  · rfl
  · rw [drawDevRound_undrawn builder undrawn]

end BlockBuilder

namespace JobBoard

/-- The height and the tip that a board itself knows never outdate its job; only time does. -/
theorem isExpired_iff (board : JobBoard) (now time : Nat) (held : board.current.isSome)
    (refreshed : board.lastRefresh = some time) :
    board.isExpired now = true ↔ board.timeout < now - time := by
  have present : board.current.isNone = false := by simpa using held
  simp [isExpired,isOutdated,timedOut,present,refreshed]

/-- What a template does to a board: it is refused, it renews the current job, or it makes a new
one. Only the dice may have moved on when a template is refused. -/
inductive Accepted (board : JobBoard) (now : Nat) (t : Template) :
    Except Error Bool × JobBoard → Prop
  | refused (fault : Error) (dice : Dice)
      (unbuilt : ∀ candidate, (board.builder.build t).1 ≠ .ok candidate) :
      Accepted board now t (.error fault, { board with builder.dice := dice })
  | kept (held : board.current.isSome) (tip : t.needPreviousBlockHash = .ok board.previousHash)
      (height : UInt64) (tall : t.needHeight = .ok height) :
      Accepted board now t (.ok false, { board with lastRefresh := some now })
  | published (height : UInt64) (previousHash : String) (candidate : Candidate)
      (dice : Dice) (tip : t.needPreviousBlockHash = .ok previousHash)
      (built : board.builder.build t = (.ok candidate, { board.builder with dice }))
      (tall : t.needHeight = .ok height) :
      Accepted board now t
        (.ok true,
          { board with builder.dice := dice }.publish now height previousHash candidate)

theorem accept_accepted (board : JobBoard) (now : Nat) (t : Template) :
    Accepted board now t (board.accept now t) := by
  unfold accept
  split
  next noHeight =>
    refine .refused _ board.builder.dice ?_
    intro candidate built
    obtain ⟨fields,stated,_⟩ := BlockBuilder.build_eq_ok.mp (Prod.ext built rfl)
    cases noHeight.symm.trans stated.needHeight
  next noTip =>
    refine .refused _ board.builder.dice ?_
    intro candidate built
    obtain ⟨fields,stated,_⟩ := BlockBuilder.build_eq_ok.mp (Prod.ext built rfl)
    obtain ⟨text,tip⟩ := stated.needTip
    cases noTip.symm.trans tip
  next height previousHash tall tip =>
    split
    next unchanged =>
      simp only [Bool.and_eq_true,beq_iff_eq] at unchanged
      obtain ⟨held,rfl⟩ := unchanged
      exact .kept held tip height tall
    next changed =>
      obtain ⟨dice,moved⟩ := board.builder.build_dice t
      split
      next fault builder refused =>
        rw [refused] at moved
        cases moved
        exact .refused fault dice (by simp [refused])
      next candidate builder built =>
        rw [built] at moved
        cases moved
        exact .published height previousHash candidate dice tip built tall

theorem accept_failed (board : JobBoard) {now : Nat} (t : Template) (fault : Error)
    (failed : (board.accept now t).1 = .error fault) (candidate : Candidate) :
    (board.builder.build t).1 ≠ .ok candidate := by
  have outcome := board.accept_accepted now t
  generalize board.accept now t = result at outcome failed
  cases outcome with
  | refused _ _ unbuilt => exact unbuilt candidate
  | kept | published => cases failed

theorem accept_built (board next : JobBoard) {now : Nat} (t : Template) (job : Job)
    (accepted : board.accept now t = (.ok true,next)) (current : next.current = some job) :
    (board.builder.build t).1 = .ok job.candidate := by
  have outcome := board.accept_accepted now t
  rw [accepted] at outcome
  cases outcome with
  | published height previousHash candidate dice tip built =>
    cases Option.some.inj current
    rw [built]

inductive Call
  | accept (now : Nat) (t : Template)
  | clear

def call (board : JobBoard) : Call → JobBoard
  | .accept now t => (board.accept now t).2
  | .clear => board.clear

def after (board : JobBoard) : List Call → JobBoard
  | [] => board
  | call :: calls => (board.call call).after calls

def made (board : JobBoard) : Call → Option Job
  | .accept now t =>
    match board.accept now t with
    | (.ok true, next) => next.current
    | _ => none
  | .clear => none

def minted (board : JobBoard) : List Call → Nat
  | [] => 0
  | call :: calls => (board.made call).isSome.toNat + (board.call call).minted calls

theorem made_eq_some {board : JobBoard} {now : Nat} {t : Template} {job : Job} :
    board.made (.accept now t) = some job ↔
      ∃ next, board.accept now t = (.ok true,next) ∧ next.current = some job := by
  simp only [made]
  split
  next next accepted => simp [accepted]
  next unaccepted =>
    constructor
    · nofun
    · rintro ⟨next,accepted,_⟩
      exact absurd accepted (unaccepted next)

theorem sequence_call (board : JobBoard) (call : Call) :
    (board.call call).sequence = board.sequence + .ofNat (board.made call).isSome.toNat := by
  cases call with
  | clear => exact (UInt64.add_zero _).symm
  | accept now t =>
    have accepted := board.accept_accepted now t
    generalize outcome : board.accept now t = result at accepted
    simp only [JobBoard.call,made,outcome]
    cases accepted with
    | refused | kept => exact (UInt64.add_zero _).symm
    | published => rfl

theorem sequence_after (board : JobBoard) (calls : List Call) :
    (board.after calls).sequence = board.sequence + .ofNat (board.minted calls) := by
  induction calls generalizing board with
  | nil => exact (UInt64.add_zero _).symm
  | cons call calls ih => rw [after,ih,sequence_call,minted,UInt64.ofNat_add,UInt64.add_assoc]

theorem made_job {board : JobBoard} (call : Call) (job : Job)
    (minted : board.made call = some job) : job.id = .ofSequence (board.sequence + 1) ∧
      ∃ t, (board.builder.build t).1 = .ok job.candidate := by
  cases call with
  | clear => simp [made] at minted
  | accept now t =>
    have accepted := board.accept_accepted now t
    generalize outcome : board.accept now t = result at accepted
    simp only [made,outcome] at minted
    cases accepted with
    | kept => simp at minted
    | refused => simp at minted
    | published height previousHash candidate dice tip built =>
      cases minted
      exact ⟨rfl,t,by rw [built]⟩

end JobBoard

end SoloMining
