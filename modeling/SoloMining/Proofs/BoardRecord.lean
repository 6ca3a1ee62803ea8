import SoloMining.Proofs.Tips

/-! What a board records beside its job. The identifier, the height, the text of the block built on and
the time of the latest template always agree with the job itself, whatever was kept, refused or dropped
in between, and without a job nothing is recorded. -/
namespace SoloMining

/-- The block built on stands behind the version. -/
theorem Header.bytes_previousHash (header : Header) :
    (header.bytes.drop 4).take 32 = header.previousHash.bytes := by
  have version : (Bytes.le32 header.version.toUInt32).length = 4 := Bytes.length_le32 _
  simp only [Header.bytes,List.append_assoc]
  rw [List.drop_left' version]
  exact List.take_left' header.previousHash.length_bytes

/-- A candidate has the height of its template, and builds on the block that the template names. -/
theorem BlockBuilder.build_place {builder : BlockBuilder} {t : Template} {candidate : Candidate}
    (built : (builder.build t).1 = .ok candidate) {height : UInt64} {text : String}
    (tall : t.height = some height) (tip : t.previousBlockHash = some text) :
    candidate.height = height ∧ hashOfDisplay text = .ok candidate.header.previousHash ∧
      candidate.blob = candidate.header.bytes := by
  obtain ⟨fields,stated,_,made⟩ := build_eq_ok.mp (Prod.ext built rfl)
  obtain ⟨coinbase,root,_,_,rfl⟩ := assemble_eq_ok.mp made
  obtain ⟨named,known,decoded⟩ := stated.previousHash
  obtain rfl := Option.some.inj (known.symm.trans tip)
  exact ⟨Option.some.inj (stated.height.symm.trans tall),
    (hashOfDisplay_eq_ok named _).mpr decoded,rfl⟩

namespace JobBoard

structure Describes (board : JobBoard) (job : Job) (now : Nat) : Prop where
  id : job.id = .ofSequence board.sequence
  height : board.height = job.candidate.height
  tip : hashOfDisplay board.previousHash = .ok job.candidate.header.previousHash
  hashed : (job.candidate.blob.drop 4).take 32 = job.candidate.header.previousHash.bytes
  refreshed : ∃ time, board.lastRefresh = some time ∧ job.created ≤ time ∧ time ≤ now

structure Consistent (board : JobBoard) (now : Nat) : Prop where
  working : ∀ job, board.current = some job → board.Describes job now
  idle : board.current = none →
    board.height = 0 ∧ board.previousHash = "" ∧ board.lastRefresh = none

/-- Boards that templates and clearing lead to, and the time, on a clock that never goes back. -/
inductive LedTo : JobBoard → Nat → Prop
  | created (builder : BlockBuilder) (algorithm : String) (timeout : Nat) (sequence : UInt64)
      (now : Nat) :
      LedTo (.create builder algorithm timeout sequence) now
  | waited (board : JobBoard) (now later : Nat) (le : now ≤ later) (earlier : LedTo board now) :
      LedTo board later
  | accepted (board : JobBoard) (now : Nat) (t : Template) (earlier : LedTo board now) :
      LedTo (board.accept now t).2 now
  | cleared (board : JobBoard) (now : Nat) (earlier : LedTo board now) : LedTo board.clear now

variable {board : JobBoard} {now later : Nat}

theorem Consistent.waited (consistent : board.Consistent now) (le : now ≤ later) :
    board.Consistent later := by
  refine ⟨?_,consistent.idle⟩
  intro job current
  have described := consistent.working job current
  obtain ⟨time,known,after,before⟩ := described.refreshed
  exact { described with refreshed := ⟨time,known,after,before.trans le⟩ }

theorem Consistent.accepted (consistent : board.Consistent now) (t : Template) :
    (board.accept now t).2.Consistent now := by
  have accepted := board.accept_accepted now t
  generalize board.accept now t = result at accepted
  cases accepted with
  | refused fault dice =>
    refine ⟨?_,consistent.idle⟩
    intro job current
    obtain ⟨id,height,tip,hashed,refreshed⟩ := consistent.working job current
    exact ⟨id,height,tip,hashed,refreshed⟩
  | kept held tip height tall =>
    constructor
    · intro job current
      obtain ⟨id,height,tip,hashed,time,_,after,before⟩ := consistent.working job current
      exact ⟨id,height,tip,hashed,now,rfl,after.trans before,le_refl now⟩
    · intro jobless
      simp [show board.current = none from jobless] at held
  | published height previousHash candidate dice tip built tall =>
    constructor
    · rintro _ ⟨⟩
      obtain ⟨high,parent,blob⟩ := BlockBuilder.build_place (congrArg Prod.fst built)
        ((Template.need_eq_ok _ _ _).mp tall) ((Template.need_eq_ok _ _ _).mp tip)
      refine ⟨rfl,high.symm,parent,?_,now,rfl,le_refl now,le_refl now⟩
      rw [blob]
      exact candidate.header.bytes_previousHash
    · intro jobless
      cases jobless

/-- At any time a board with a job describes that job, and one without a job describes none. -/
theorem board_describes_job (board : JobBoard) (now : Nat) (led : LedTo board now) :
    board.Consistent now := by
  induction led with
  | created => exact ⟨by simp [create],fun _ => ⟨rfl,rfl,rfl⟩⟩
  | waited board now later le earlier ih => exact ih.waited le
  | accepted board now t earlier ih => exact ih.accepted t
  | cleared => exact ⟨by simp [clear],fun _ => ⟨rfl,rfl,rfl⟩⟩

namespace Sample

def misplaced : Template := { Candidate.Sample.template with height := some 7 }

/-- On another block, at a height that no script can push. -/
def unreachable : Template := { elsewhere with height := some 9223372036854775808 }

end Sample

/-- A board that goes on with a sequence gets a job, a template that repeats the block at another height,
and one that fails; a quarter of an hour later it is cleared. -/
theorem board_describes_job_kept : ∃ board job,
    LedTo board 900000 ∧ board.current = some job ∧ job.created = 5 ∧
    board.lastRefresh = some 9 ∧ job.id = .ofSequence 41 ∧ board.height = 100 ∧
    hashOfDisplay board.previousHash = .ok job.candidate.header.previousHash ∧
    LedTo board.clear 900000 ∧ board.clear.previousHash = "" := by
  have reached := Reached.created Sample.builder "ghostrider" 15000 40
  have start := LedTo.created Sample.builder "ghostrider" 15000 40 5
  generalize fresh : create Sample.builder "ghostrider" 15000 40 = board at reached start
  obtain ⟨jobless,timed⟩ : board.current = none ∧ board.sequence = 40 := by
    rw [← fresh]
    exact ⟨rfl,rfl⟩
  -- The three templates, one after another.
  obtain ⟨job,minted⟩ := (board.exists_made jobless 5).mpr BlockBuilder.Sample.acceptable
  obtain ⟨first,accepted,current⟩ := made_eq_some.mp minted
  have stands := (reached.accepted accepted).standsOn
  have kept := stands.repeated (t := Sample.misplaced) ⟨⟨7,rfl⟩,_,rfl,rfl⟩ 9
  have held : StandsOn { first with lastRefresh := some 9 } _ := ⟨stands.held,stands.tip⟩
  obtain ⟨fault,dice,failed⟩ := held.fails 12 Sample.elsewhere_unfit
  have led := LedTo.accepted _ 5 Candidate.Sample.template start
  rw [accepted] at led
  have led := LedTo.accepted _ 9 Sample.misplaced (.waited _ 5 9 (by decide) led)
  rw [kept] at led
  have led := LedTo.accepted _ 12 Sample.unreachable (.waited _ 9 12 (by decide) led)
  rw [Sample.unreachable,failed] at led
  have led := LedTo.waited _ 12 900000 (by decide) led
  have ended := LedTo.cleared _ _ led
  have described := (board_describes_job _ 900000 led).working job current
  have outcome := reached.standsOn.outcome 5 Candidate.Sample.template
  rw [accepted] at outcome
  cases outcome with
  | turned _ _ installs =>
    obtain ⟨_,made,_,created,_⟩ := installs.job
    cases Option.some.inj (current.symm.trans made)
    have numbered := installs.sequence
    rw [timed] at numbered
    refine ⟨_,job,led,current,created,rfl,?_,(Option.some.inj installs.height).symm,described.tip,
      ended,((board_describes_job _ _ ended).idle rfl).2.1⟩
    rw [described.id]
    exact congrArg JobId.ofSequence numbered

end JobBoard

end SoloMining
