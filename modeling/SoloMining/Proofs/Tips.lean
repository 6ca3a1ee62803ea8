import SoloMining.Proofs.DevRounds

/-! One job for one tip. As long as templates come on the block that the current job builds on, the job
stays as it is, however long it has been held; the next job is made when a template comes on another
block, and nothing else makes one. -/
namespace SoloMining

structure Template.Repeats (t : Template) (before : Option Template) : Prop where
  tall : ∃ height, t.height = some height
  tip : ∃ earlier, before = some earlier ∧ t.previousBlockHash = earlier.previousBlockHash

theorem Template.Repeats.same {t : Template} {before : Option Template}
    (repeats : t.Repeats before) :
    before.map Template.previousBlockHash = some t.previousBlockHash := by
  obtain ⟨earlier,rfl,same⟩ := repeats.tip
  rw [same,Option.map_some]

/-- How often templates in a row turn to a block that the one before does not build on. -/
def Template.turns (before : Option Template) : List Template → Nat
  | [] => 0
  | t :: rest =>
    (if before.map Template.previousBlockHash = some t.previousBlockHash then 0 else 1)
      + turns (some t) rest

namespace JobBoard

def basisAfter (board : JobBoard) (basis : Option Template) : Call → Option Template
  | .accept now t =>
    match (board.accept now t).1 with
    | .ok true => some t
    | _ => basis
  | .clear => none

inductive Reached : JobBoard → Option Template → Prop
  | created (builder : BlockBuilder) (algorithm : String) (timeout : Nat) (sequence : UInt64) :
      Reached (.create builder algorithm timeout sequence) none
  | called (board : JobBoard) (basis : Option Template) (call : Call)
      (earlier : Reached board basis) : Reached (board.call call) (board.basisAfter basis call)

structure StandsOn (board : JobBoard) (before : Option Template) : Prop where
  held : board.current.isSome = before.isSome
  tip : ∀ t, before = some t → t.previousBlockHash = some board.previousHash

structure Installs (board : JobBoard) (now : Nat) (t : Template) (next : JobBoard) : Prop where
  job : ∃ job, next.current = some job ∧ job.id = .ofSequence next.sequence ∧ job.created = now ∧
    (board.builder.build t).1 = .ok job.candidate
  sequence : next.sequence = board.sequence + 1
  height : t.height = some next.height
  tip : t.previousBlockHash = some next.previousHash
  lastRefresh : next.lastRefresh = some now

def offered (offers : List (Nat × Template)) : List Call :=
  offers.map fun offer => .accept offer.1 offer.2

def succeeded (board : JobBoard) : List (Nat × Template) → List Template
  | [] => []
  | (now, t) :: rest =>
    match board.accept now t with
    | (.ok _, next) => t :: next.succeeded rest
    | (.error _, next) => next.succeeded rest

variable {board : JobBoard} {before basis : Option Template} {now : Nat} {t : Template}

theorem StandsOn.repeated (stands : board.StandsOn before) (repeats : t.Repeats before) (now : Nat) :
    board.accept now t = (.ok false,{ board with lastRefresh := some now }) := by
  obtain ⟨⟨height,tall⟩,earlier,rfl,same⟩ := repeats
  rw [stands.tip earlier rfl] at same
  have held := stands.held
  simp only [Option.isSome_some] at held
  simp [accept,Template.needHeight,Template.needPreviousBlockHash,Template.need,tall,same,held]

inductive Outcome (board : JobBoard) (before : Option Template) (now : Nat) (t : Template) :
    Except Error Bool × JobBoard → Prop
  | failed (fault : Error) (dice : Dice) :
      Outcome board before now t (.error fault, { board with builder.dice := dice })
  | repeated (repeats : t.Repeats before) :
      Outcome board before now t (.ok false, { board with lastRefresh := some now })
  | turned (next : JobBoard) (turns : ¬ t.Repeats before) (installs : board.Installs now t next) :
      Outcome board before now t (.ok true, next)

theorem StandsOn.outcome (stands : board.StandsOn before) (now : Nat) (t : Template) :
    Outcome board before now t (board.accept now t) := by
  have accepted := board.accept_accepted now t
  generalize answer : board.accept now t = result at accepted
  cases accepted with
  | refused fault dice => exact .failed fault dice
  | kept held tip height tall =>
    rw [stands.held] at held
    obtain ⟨earlier,known⟩ := Option.isSome_iff_exists.mp held
    rw [Template.needPreviousBlockHash,Template.need_eq_ok] at tip
    rw [Template.needHeight,Template.need_eq_ok] at tall
    exact .repeated ⟨⟨height,tall⟩,earlier,known,tip.trans (stands.tip earlier known).symm⟩
  | published height previousHash candidate dice tip built tall =>
    rw [Template.needPreviousBlockHash,Template.need_eq_ok] at tip
    rw [Template.needHeight,Template.need_eq_ok] at tall
    -- Of a template that repeats the one before, no job is made.
    refine .turned _ ?_ ⟨⟨_,rfl,rfl,rfl,by rw [built]⟩,rfl,tall,tip,rfl⟩
    intro repeats
    have same := stands.repeated repeats now
    simp [answer] at same

theorem StandsOn.accept (stands : board.StandsOn before) (now : Nat) (t : Template) :
    (board.accept now t).2.StandsOn
      (if (board.accept now t).1.toOption.isSome then some t else before) := by
  have outcome := stands.outcome now t
  generalize board.accept now t = result at outcome
  cases outcome with
  | failed fault dice => exact ⟨stands.held,stands.tip⟩
  | repeated repeats =>
    obtain ⟨earlier,rfl,same⟩ := repeats.tip
    refine ⟨by simpa [Except.toOption] using stands.held,?_⟩
    rintro _ ⟨⟩
    exact same.trans (stands.tip earlier rfl)
  | turned next turns installs =>
    obtain ⟨job,current,_⟩ := installs.job
    refine ⟨by simp [Except.toOption,current],?_⟩
    rintro _ ⟨⟩
    exact installs.tip

theorem StandsOn.minted (stands : board.StandsOn before) (offers : List (Nat × Template)) :
    board.minted (offered offers) = Template.turns before (board.succeeded offers) := by
  induction offers generalizing board before with
  | nil => rfl
  | cons offer rest ih =>
    -- The board goes on standing on the last template that did not fail, which is what is counted from.
    obtain ⟨now,t⟩ := offer
    have outcome := stands.outcome now t
    have later := stands.accept now t
    generalize answer : board.accept now t = result at outcome later
    have first : board.minted (offered ((now,t) :: rest)) =
        (board.made (.accept now t)).isSome.toNat + result.2.minted (offered rest) := by
      simp only [offered,List.map_cons,JobBoard.minted,call,answer]
    rw [first,ih later,made,answer,succeeded,answer]
    cases outcome with
    | failed fault dice => simp [Except.toOption]
    | repeated repeats => simp [Except.toOption,Template.turns,repeats.same]
    | turned next turns installs =>
      obtain ⟨job,current,_⟩ := installs.job
      have other : before.map Template.previousBlockHash ≠ some t.previousBlockHash := by
        intro same
        obtain ⟨earlier,known,equal⟩ := Option.map_eq_some_iff.mp same
        exact turns ⟨⟨_,installs.height⟩,earlier,known,equal.symm⟩
      simp [Except.toOption,Template.turns,other,current]

/-- A template that neither repeats the one before nor is acceptable fails, and no other does. -/
theorem StandsOn.succeeds_iff (stands : board.StandsOn before) (now : Nat) (t : Template) :
    (board.accept now t).1.toOption.isSome = true ↔ t.Repeats before ∨ t.Acceptable := by
  have outcome := stands.outcome now t
  generalize answer : board.accept now t = result at outcome
  rw [← board.builder.exists_build]
  cases outcome with
  | failed fault dice =>
    have other : ¬ t.Repeats before := by
      intro repeats
      cases answer.symm.trans (stands.repeated repeats now)
    have unbuilt := board.accept_failed t fault (by rw [answer])
    simp [other,unbuilt,Except.toOption]
  | repeated repeats => simp [repeats,Except.toOption]
  | turned next turns installs =>
    obtain ⟨job,_,_,_,built⟩ := installs.job
    simp [built,Except.toOption]

theorem StandsOn.succeeding (stands : board.StandsOn before) (now : Nat)
    (fine : t.Repeats before ∨ t.Acceptable) : (board.accept now t).2.StandsOn (some t) ∧
      ∀ rest, board.succeeded ((now,t) :: rest) = t :: (board.accept now t).2.succeeded rest := by
  have succeeds := (stands.succeeds_iff now t).mpr fine
  have later := stands.accept now t
  rw [if_pos succeeds] at later
  refine ⟨later,?_⟩
  intro rest
  cases answer : board.accept now t with
  | mk outcome next =>
    rw [answer] at succeeds
    cases outcome with
    | error fault => cases succeeds
    | ok isNew => rw [succeeded,answer]

theorem StandsOn.fails (stands : board.StandsOn before) (now : Nat)
    (unfit : ¬ (t.Repeats before ∨ t.Acceptable)) :
    ∃ fault dice, board.accept now t = (.error fault,{ board with builder.dice := dice }) := by
  have outcome := stands.outcome now t
  generalize board.accept now t = result at outcome
  cases outcome with
  | failed fault dice => exact ⟨fault,dice,rfl⟩
  | repeated repeats => exact absurd (.inl repeats) unfit
  | turned next turns installs =>
    obtain ⟨job,_,_,_,built⟩ := installs.job
    exact absurd (.inr ((board.builder.exists_build t).mp ⟨_,built⟩)) unfit

theorem StandsOn.failing (stands : board.StandsOn before) (now : Nat)
    (unfit : ¬ (t.Repeats before ∨ t.Acceptable)) : (board.accept now t).2.StandsOn before ∧
      ∀ rest, board.succeeded ((now,t) :: rest) = (board.accept now t).2.succeeded rest := by
  obtain ⟨fault,dice,failed⟩ := stands.fails now unfit
  rw [failed]
  refine ⟨⟨stands.held,stands.tip⟩,?_⟩
  intro rest
  rw [succeeded,failed]

/-- However long it is held, a job stays while all templates repeat the one that it was built from. -/
theorem StandsOn.kept (stands : board.StandsOn basis) (offers : List (Nat × Template))
    (repeating : ∀ offer ∈ offers, offer.2.Repeats basis) :
    ∃ refreshed, board.after (offered offers) = { board with lastRefresh := refreshed } := by
  induction offers generalizing board with
  | nil => exact ⟨board.lastRefresh,rfl⟩
  | cons offer rest ih =>
    obtain ⟨first,others⟩ := List.forall_mem_cons.mp repeating
    have same := stands.repeated first offer.1
    have stays : { board with lastRefresh := some offer.1 }.StandsOn basis :=
      ⟨stands.held,stands.tip⟩
    obtain ⟨refreshed,kept⟩ := ih stays others
    refine ⟨refreshed,?_⟩
    rw [offered,List.map_cons,after,call,same]
    exact kept

theorem Reached.accepted {next : JobBoard} (reached : Reached board basis)
    (accepted : board.accept now t = (.ok true,next)) : Reached next (some t) := by
  have later := reached.called board basis (.accept now t)
  simpa only [call,basisAfter,accepted] using later

theorem Reached.standsOn (reached : Reached board basis) : board.StandsOn basis := by
  induction reached with
  | created => exact ⟨rfl,by simp⟩
  | called board basis call earlier ih =>
    cases call with
    | clear => exact ⟨rfl,by simp [basisAfter]⟩
    | accept now t =>
      have outcome := ih.outcome now t
      generalize answer : board.accept now t = result at outcome
      simp only [JobBoard.call,basisAfter,answer]
      cases outcome with
      | failed fault dice => exact ⟨ih.held,ih.tip⟩
      | repeated repeats => exact ⟨ih.held,ih.tip⟩
      | turned next turns installs =>
        obtain ⟨job,current,_⟩ := installs.job
        refine ⟨by simp [current],?_⟩
        rintro _ ⟨⟩
        exact installs.tip

theorem Reached.built (reached : Reached board basis) (job : Job)
    (current : board.current = some job) :
    ∃ t builder, basis = some t ∧ (BlockBuilder.build builder t).1 = .ok job.candidate := by
  induction reached with
  | created => simp [create] at current
  | called board basis call earlier ih =>
    cases call with
    | clear => simp [JobBoard.call,clear] at current
    | accept now t =>
      have outcome := earlier.standsOn.outcome now t
      generalize answer : board.accept now t = result at outcome
      simp only [JobBoard.call,basisAfter,answer] at current ⊢
      cases outcome with
      | failed fault dice => exact ih current
      | repeated repeats => exact ih current
      | turned next turns installs =>
        obtain ⟨other,present,_,_,built⟩ := installs.job
        cases Option.some.inj (present.symm.trans current)
        exact ⟨t,board.builder,rfl,built⟩

/-- A board keeps its job for templates on the block of the job, and makes one job for every turn to
another block, numbered on in 64 bits. -/
theorem one_job_per_tip (board : JobBoard) (basis : Option Template) (reached : Reached board basis) :
    (∀ job, board.current = some job →
      ∃ t builder, basis = some t ∧ (BlockBuilder.build builder t).1 = .ok job.candidate) ∧
    (∀ now t, t.Repeats basis →
      board.accept now t = (.ok false, { board with lastRefresh := some now })) ∧
    (∀ now t, ¬ t.Repeats basis →
      (∃ fault dice, board.accept now t = (.error fault, { board with builder.dice := dice })) ∨
      ∃ next, board.accept now t = (.ok true, next) ∧ board.Installs now t next) ∧
    (∀ offers : List (Nat × Template), (∀ offer ∈ offers, offer.2.Repeats basis) →
      ∃ refreshed, board.after (offered offers) = { board with lastRefresh := refreshed }) ∧
    (board.current = none → ∀ offers,
      board.minted (offered offers) = Template.turns none (board.succeeded offers) ∧
      (board.after (offered offers)).sequence =
        board.sequence + .ofNat (Template.turns none (board.succeeded offers))) := by
  have stands := reached.standsOn
  refine ⟨reached.built,fun now t repeats => stands.repeated repeats now,?_,stands.kept,?_⟩
  · intro now t turns
    have outcome := stands.outcome now t
    generalize board.accept now t = result at outcome
    cases outcome with
    | failed fault dice => exact .inl ⟨fault,dice,rfl⟩
    | repeated repeats => exact absurd repeats turns
    | turned next _ installs => exact .inr ⟨next,rfl,installs⟩
  · intro jobless offers
    have fresh : board.StandsOn none := ⟨by rw [jobless]; rfl,by simp⟩
    exact ⟨fresh.minted offers,by rw [sequence_after,fresh.minted offers]⟩

namespace Sample

def elsewhere : Template :=
  { Candidate.Sample.template with
    previousBlockHash := some "bbbbbbbbbbbbbbbbbbbbbbbbbbbbbbbbbbbbbbbbbbbbbbbbbbbbbbbbbbbbbbbb" }

theorem elsewhere_acceptable : elsewhere.Acceptable :=
  have word : Hex.SpellsWord "bbbbbbbbbbbbbbbbbbbbbbbbbbbbbbbbbbbbbbbbbbbbbbbbbbbbbbbbbbbbbbbb" := by
    obtain ⟨bytes,read,_⟩ := exists_ok (Hex.decode
      "bbbbbbbbbbbbbbbbbbbbbbbbbbbbbbbbbbbbbbbbbbbbbbbbbbbbbbbbbbbbbbbb") List.length 32
      (by decide +kernel)
    exact ⟨rfl,((Hex.exists_decode _).mp ⟨bytes,read⟩).2⟩
  { BlockBuilder.Sample.acceptable with previousHash := ⟨_,rfl,word⟩ }

theorem elsewhere_unfit : ¬ ({ elsewhere with height := some 9223372036854775808 }.Repeats
    (some Candidate.Sample.template) ∨
      { elsewhere with height := some 9223372036854775808 }.Acceptable) := by
  have turns : elsewhere.previousBlockHash ≠ Candidate.Sample.template.previousBlockHash := by
    decide +kernel
  rintro (⟨_,_,⟨⟩,same⟩ | acceptable)
  · exact turns same
  · exact elsewhere.unacceptable_height _ (by decide) acceptable

/-- A day on one block, with a template in between from which no block can be made. -/
def offers : List (Nat × Template) :=
  [(0, Candidate.Sample.template), (86400000, Candidate.Sample.template),
    (86400001, { elsewhere with height := some 9223372036854775808 }),
    (86400002, Candidate.Sample.template), (86400003, elsewhere)]

end Sample

/-- A job that has been expired for a day is kept, and only the other block brings a second one. -/
theorem one_job_per_tip_held : ∃ board,
    Reached board (some Candidate.Sample.template) ∧ board.isExpired 86400000 = true ∧
      board.accept 86400000 Candidate.Sample.template =
        (.ok false, { board with lastRefresh := some 86400000 }) ∧
      Sample.idle.minted (offered Sample.offers) = 2 := by
  have first : Reached Sample.idle none := .created Sample.builder "ghostrider" 15000 0
  obtain ⟨job,minted⟩ := (Sample.idle.exists_made rfl 0).mpr BlockBuilder.Sample.acceptable
  obtain ⟨board,accepted,current⟩ := made_eq_some.mp minted
  have second := first.accepted accepted
  have repeats : Candidate.Sample.template.Repeats (some Candidate.Sample.template) :=
    ⟨⟨100,rfl⟩,_,rfl,rfl⟩
  have kept := (one_job_per_tip _ _ second).2.1 86400000 _ repeats
  have expired : board.isExpired 86400000 = true := by
    have outcome := Sample.idle.accept_accepted 0 Candidate.Sample.template
    rw [accepted] at outcome
    cases outcome with
    | published => exact (isExpired_iff _ _ 0 rfl rfl).mpr (show 15000 < 86400000 by decide)
  have counted := ((one_job_per_tip _ _ first).2.2.2.2 rfl Sample.offers).1
  refine ⟨board,second,expired,kept,counted.trans ?_⟩
  obtain ⟨stands,one⟩ := first.standsOn.succeeding 0 (.inr BlockBuilder.Sample.acceptable)
  obtain ⟨stands,two⟩ := stands.succeeding 86400000 (.inl repeats)
  obtain ⟨stands,three⟩ := stands.failing 86400001 Sample.elsewhere_unfit
  obtain ⟨stands,four⟩ := stands.succeeding 86400002 (.inl repeats)
  obtain ⟨stands,five⟩ := stands.succeeding 86400003 (.inr Sample.elsewhere_acceptable)
  rw [Sample.offers,one,two,three,four,five]
  decide +kernel

end JobBoard

end SoloMining
