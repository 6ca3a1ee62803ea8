import SoloMining.Proofs.Block.Acceptance
import SoloMining.Proofs.Job

/-! Draws for the dev address. A draw is made for every template whose fields can be read, also if no
coinbase can be made from them, so a job gets the next draw after those of all earlier jobs and of all
templates that failed that late. -/
namespace SoloMining

def Dice.rolled (dice : Dice) : Nat → Dice
  | 0 => dice
  | count + 1 => (dice.roll 100).2.rolled count

theorem Dice.roll_taken (dice : Dice) (sides : Nat) : dice.taken < (dice.roll sides).2.taken := by
  unfold roll
  dsimp only
  split
  · exact Nat.lt_add_of_pos_right (by decide)
  · exact Nat.lt_succ_self _

theorem Template.unacceptable_height (t : Template) (height : UInt64)
    (beyond : 2 ^ 63 ≤ height.toNat) : ¬ { t with height := some height }.Acceptable := by
  intro acceptable
  exact Nat.not_lt.mpr beyond (acceptable.inRange height rfl)

namespace BlockBuilder

variable {builder : BlockBuilder} {t : Template} {candidate : Candidate}

/-- What a draw decides, numbered from the next one. -/
def decision (builder : BlockBuilder) (number : Nat) : Bool :=
  builder.payee.dev.isSome
    && decide (((builder.dice.rolled number).roll 100).1 < builder.devFeePercent.toNat)

theorem drawDevRound_decides : builder.drawDevRound.1 = builder.decision 0 := by
  unfold drawDevRound decision
  cases builder.payee.dev <;> rfl

theorem decision_drawDevRound (number : Nat) :
    builder.drawDevRound.2.decision number = builder.decision (number + 1) := by
  unfold drawDevRound decision
  cases given : builder.payee.dev with
  | none => simp [given]
  | some script =>
    simp only [Option.isSome_some,if_true,given]
    rfl

theorem drawDevRound_still : builder.drawDevRound.2 = builder ↔ builder.payee.dev = none := by
  unfold drawDevRound
  cases given : builder.payee.dev with
  | none => simp
  | some script =>
    simp only [Option.isSome_some,if_true,reduceCtorEq,iff_false]
    intro same
    have moved := builder.dice.roll_taken 100
    have taken := congrArg (fun next : BlockBuilder => next.dice.taken) same
    simp only at taken
    omega

theorem build_unread (unread : ∀ fields, TemplateFields.read t ≠ .ok fields) :
    (builder.build t).2 = builder := by
  rw [build]
  split
  next => rfl
  next fields read => exact absurd read (unread fields)

theorem build_drawn (fields : TemplateFields) (read : TemplateFields.read t = .ok fields) :
    (builder.build t).2 = builder.drawDevRound.2 := by
  rw [build,read]

theorem build_still : (builder.build t).2 = builder ↔
    builder.payee.dev = none ∨ ∀ fields, TemplateFields.read t ≠ .ok fields := by
  cases read : TemplateFields.read t with
  | error fault =>
    have unread : ∀ fields, TemplateFields.read t ≠ .ok fields := by simp [read]
    simp [build_unread unread]
  | ok fields =>
    rw [build_drawn fields read,drawDevRound_still]
    simp

theorem build_devRound (built : (builder.build t).1 = .ok candidate) :
    candidate.devRound = builder.decision 0 ∧ (builder.build t).2 = builder.drawDevRound.2 := by
  obtain ⟨fields,stated,_,made⟩ := build_eq_ok.mp (Prod.ext built rfl)
  obtain ⟨coinbase,root,_,_,rfl⟩ := assemble_eq_ok.mp made
  exact ⟨drawDevRound_decides,build_drawn fields ((TemplateFields.read_eq_ok t fields).mpr stated)⟩

end BlockBuilder

namespace JobBoard

/-- Whether a call takes a template that fails although its fields can be read. -/
def spoils (board : JobBoard) : Call → Bool
  | .accept now t =>
    (board.accept now t).1.toOption.isNone && (TemplateFields.read t).toOption.isSome
  | .clear => false

def spoilt (board : JobBoard) : List Call → Nat
  | [] => 0
  | call :: calls => (board.spoils call).toNat + (board.call call).spoilt calls

variable {board : JobBoard}

theorem accept_refused (board : JobBoard) (now : Nat) (t : Template) (fault : Error)
    (refused : (board.accept now t).1 = .error fault) :
    (board.accept now t).2.builder = (board.builder.build t).2 := by
  unfold accept at refused ⊢
  -- Without a height or a tip the builder is never asked, and would have read no fields either.
  split
  next noHeight =>
    refine (BlockBuilder.build_unread ?_).symm
    intro fields read
    have stated := (TemplateFields.read_eq_ok t fields).mp read
    cases noHeight.symm.trans stated.needHeight
  next noTip =>
    refine (BlockBuilder.build_unread ?_).symm
    intro fields read
    obtain ⟨text,tip⟩ := ((TemplateFields.read_eq_ok t fields).mp read).needTip
    cases noTip.symm.trans tip
  next height previousHash found tip =>
    simp only [found,tip] at refused
    split at refused
    next => simp at refused
    next changed =>
      rw [if_neg changed]
      split
      next builder failed => rw [failed]
      next candidate builder built => rw [built] at refused; simp at refused

/-- A call uses up a draw if it makes a job or spoils one. -/
theorem decision_call (call : Call) (number : Nat) :
    (board.call call).builder.decision number = board.builder.decision
      (number + ((board.made call).isSome.toNat + (board.spoils call).toNat)) := by
  cases call with
  | clear => rfl
  | accept now t =>
    have accepted := board.accept_accepted now t
    generalize outcome : board.accept now t = result at accepted
    cases accepted with
    | kept held tip => simp [JobBoard.call,made,spoils,outcome,Except.toOption]
    | published height previousHash candidate dice tip built =>
      have drawn := (BlockBuilder.build_devRound (by rw [built])).2
      rw [built] at drawn
      dsimp only at drawn
      simp only [JobBoard.call,made,spoils,outcome,Except.toOption,publish,Option.isSome_some,
        Option.isNone_some,Bool.false_and,Bool.toNat_true,Bool.toNat_false,Nat.add_zero]
      rw [drawn,BlockBuilder.decision_drawDevRound]
    | refused fault dice =>
      have same := board.accept_refused now t fault (by rw [outcome])
      rw [outcome] at same
      dsimp only at same
      simp only [JobBoard.call,made,spoils,outcome,Except.toOption,Option.isSome_none,
        Option.isNone_none,Bool.true_and,Bool.toNat_false,Nat.zero_add]
      rw [same]
      cases read : TemplateFields.read t with
      | error unread => simp [BlockBuilder.build_unread (t := t) (by simp [read])]
      | ok fields =>
        rw [BlockBuilder.build_drawn fields read,BlockBuilder.decision_drawDevRound]
        rfl

theorem decision_after (board : JobBoard) (calls : List Call) (number : Nat) :
    (board.after calls).builder.decision number =
      board.builder.decision (number + (board.minted calls + board.spoilt calls)) := by
  induction calls generalizing board number with
  | nil => rfl
  | cons call calls ih =>
    rw [after,ih,decision_call,minted,spoilt]
    congr 1
    omega

theorem made_devRound {call : Call} {job : Job} (minted : board.made call = some job) :
    job.candidate.devRound = board.builder.decision 0 := by
  obtain ⟨_,t,built⟩ := made_job call job minted
  exact (BlockBuilder.build_devRound built).1

/-- Without a job, just the acceptable templates make one. -/
theorem exists_made {t : Template} (board : JobBoard) (jobless : board.current = none) (now : Nat) :
    (∃ job, board.made (.accept now t) = some job) ↔ t.Acceptable := by
  rw [← board.builder.exists_build]
  have accepted := board.accept_accepted now t
  generalize outcome : board.accept now t = result at accepted
  simp only [made,outcome]
  cases accepted with
  | refused fault dice unbuilt => simp [unbuilt]
  | kept held => simp [jobless] at held
  | published height previousHash candidate dice tip built => simp [built,publish]

/-- Without a job, just the templates that can be read and are not acceptable are spoilt. -/
theorem spoils_iff {t : Template} (board : JobBoard) (jobless : board.current = none) (now : Nat) :
    board.spoils (.accept now t) = true ↔ t.Readable ∧ ¬ t.Acceptable := by
  have read : (TemplateFields.read t).toOption.isSome = true ↔ t.Readable := by
    simp [Option.isSome_iff_exists,toOption_eq_some,TemplateFields.read_eq_ok,
      TemplateFields.exists_stated]
  have failed : (board.accept now t).1.toOption.isNone = true ↔ ¬ t.Acceptable := by
    rw [← board.builder.exists_build]
    have accepted := board.accept_accepted now t
    generalize board.accept now t = result at accepted
    cases accepted with
    | refused fault dice unbuilt => simp [unbuilt,Except.toOption]
    | kept held => simp [jobless] at held
    | published height previousHash candidate dice tip built => simp [built,Except.toOption]
  rw [spoils,Bool.and_eq_true,failed,read,and_comm]

theorem jobless_call {call : Call} (jobless : board.current = none)
    (unmade : board.made call = none) : (board.call call).current = none := by
  cases call with
  | clear => rfl
  | accept now t =>
    have accepted := board.accept_accepted now t
    generalize outcome : board.accept now t = result at accepted
    simp only [made,JobBoard.call,outcome] at unmade ⊢
    cases accepted with
    | refused => exact jobless
    | kept => exact jobless
    | published => cases unmade

theorem spoilt_first {t : Template} (board : JobBoard) (jobless : board.current = none) (now : Nat)
    (readable : t.Readable) (unacceptable : ¬ t.Acceptable) :
    board.minted [.accept now t] = 0 ∧ board.spoilt [.accept now t] = 1 ∧
      (board.call (.accept now t)).current = none := by
  have spoils := (board.spoils_iff jobless now).mpr ⟨readable,unacceptable⟩
  have unmade : board.made (.accept now t) = none := by
    cases minted : board.made (.accept now t) with
    | none => rfl
    | some job => exact absurd ((board.exists_made jobless now).mp ⟨job,minted⟩) unacceptable
  refine ⟨?_,?_,jobless_call jobless unmade⟩
  · simp [minted,unmade]
  · simp [spoilt,spoils]

/-- When a template fails, nothing is drawn exactly if there is nothing to draw for or its fields cannot
be read; and the draw for a job is numbered by the jobs and the late failures before it. -/
theorem draws_by_readable_templates (board : JobBoard) :
    (∀ t fault, (board.builder.build t).1 = .error fault →
      ((board.builder.build t).2 = board.builder ↔
        board.builder.payee.dev = none ∨ ∀ fields, TemplateFields.read t ≠ .ok fields)) ∧
    ∀ calls call job, (board.after calls).made call = some job →
      job.id = .ofSequence (board.sequence + .ofNat (board.minted calls) + 1) ∧
      job.candidate.devRound = board.builder.decision (board.minted calls + board.spoilt calls) := by
  constructor
  · intro t fault _
    exact BlockBuilder.build_still
  · intro calls call job minted
    obtain ⟨named,t,built⟩ := made_job call job minted
    rw [sequence_after] at named
    have drawn := (BlockBuilder.build_devRound built).1
    rw [decision_after,Nat.zero_add] at drawn
    exact ⟨named,drawn⟩

namespace Sample

def builder : BlockBuilder := .create ⟨.raptoreum, [0x51], some [0x52]⟩ 50 (.ofSeed 3)

def idle : JobBoard := .create builder "ghostrider" 15000 0

/-- All fields can be read, but no script can push this height. -/
def tooHigh : Template :=
  { Candidate.Sample.template with height := some 9223372036854775808 }

theorem tooHigh_readable : tooHigh.Readable :=
  { BlockBuilder.Sample.acceptable.toReadable with height := ⟨_,rfl⟩ }

theorem tooHigh_unacceptable : ¬ tooHigh.Acceptable :=
  Candidate.Sample.template.unacceptable_height _ (by decide)

end Sample

theorem draws_by_readable_templates_late :
    ∃ job, (Sample.idle.after [.accept 0 Sample.tooHigh]).made
        (.accept 1 Candidate.Sample.template) = some job ∧
      job.id = .ofSequence 1 ∧ job.candidate.devRound = Sample.builder.decision 1 := by
  obtain ⟨jobs,failures,jobless⟩ :=
    Sample.idle.spoilt_first rfl 0 Sample.tooHigh_readable Sample.tooHigh_unacceptable
  obtain ⟨job,minted⟩ := (exists_made _ jobless 1).mpr BlockBuilder.Sample.acceptable
  obtain ⟨_,numbered⟩ := draws_by_readable_templates Sample.idle
  have numbered := numbered [.accept 0 Sample.tooHigh] _ job minted
  rw [jobs,failures] at numbered
  exact ⟨job,minted,numbered⟩

/-- A template that fails late uses up a draw, and with it decides the next job. -/
theorem late_failure_draws :
    (∃ fault, (Sample.builder.build Sample.tooHigh).1 = .error fault) ∧
    (Sample.builder.build Sample.tooHigh).2 ≠ Sample.builder ∧
    (Sample.idle.made (.accept 1 Candidate.Sample.template)).map
      (fun job => job.candidate.devRound) = some false ∧
    ((Sample.idle.call (.accept 0 Sample.tooHigh)).made
      (.accept 1 Candidate.Sample.template)).map (fun job => job.candidate.devRound) =
        some true := by
  obtain ⟨jobs,failures,jobless⟩ :=
    Sample.idle.spoilt_first rfl 0 Sample.tooHigh_readable Sample.tooHigh_unacceptable
  refine ⟨?_,?_,?_,?_⟩
  · cases outcome : (Sample.builder.build Sample.tooHigh).1 with
    | error fault => exact ⟨fault,rfl⟩
    | ok candidate =>
      have acceptable := (BlockBuilder.exists_build _ _).mp ⟨candidate,outcome⟩
      exact absurd acceptable Sample.tooHigh_unacceptable
  · rw [Ne,BlockBuilder.build_still]
    rintro (undrawn | unread)
    · cases undrawn
    · obtain ⟨fields,stated⟩ := (TemplateFields.exists_stated _).mpr Sample.tooHigh_readable
      exact unread fields ((TemplateFields.read_eq_ok _ fields).mpr stated)
  · obtain ⟨job,minted⟩ := (Sample.idle.exists_made rfl 1).mpr BlockBuilder.Sample.acceptable
    rw [minted,Option.map_some,made_devRound minted]
    decide +kernel
  · obtain ⟨job,minted⟩ := (exists_made _ jobless 1).mpr BlockBuilder.Sample.acceptable
    have drawn := Sample.idle.decision_after [.accept 0 Sample.tooHigh] 0
    rw [jobs,failures,after,after] at drawn
    rw [minted,Option.map_some,made_devRound minted,drawn]
    decide +kernel

end JobBoard

end SoloMining
