import SoloMining.Proofs.Client.Numbering

/-! What backends are told about their results. Every verdict answers one earlier submission with the
data of that submission, none is given twice, none survives a reset, and dev rounds are silent. -/
namespace SoloMining.Client

def report? : Effect → Option (ShareReport × ShareStatus)
  | .result report status => some (report, status)
  | _ => none

def told (effects : List Effect) : List (ShareReport × ShareStatus) := effects.filterMap report?

/-- The numbers of the submissions on which a verdict is given. A share that was never sent gets
none. -/
def ruled (effects : List Effect) : List Nat :=
  ((told effects).filter (·.2 != .partialShare)).map (·.1.seq)

def Drops (input : Input) (answer : Answer) : Prop :=
  input = .disconnect ∨
    ∃ settings entropy, input = .reconfigure settings entropy ∧ answer = .reconfigured (.ok ())

namespace Entry

def reports (entry : Entry) : List (ShareReport × ShareStatus) := told entry.effects

def Submits (entry : Entry) (seq : Nat) (result : JobResult) : Prop :=
  entry.input = .submit result ∧ entry.answer = .submitted (.ok seq)

def Completes (entry : Entry) (seq : Nat) : Prop :=
  ∃ result, entry.input = .complete seq result

def Resets (entry : Entry) : Prop := Drops entry.input entry.answer

end Entry

structure Accounting (history : List Entry) : Prop where
  /-- Later submissions have greater numbers. -/
  ordered : ∀ (before : List Entry) (call : Entry) (between : List Entry) (later : Entry)
    (after : List Entry) (seq number : Nat) (result other : JobResult),
    history = before ++ call :: (between ++ later :: after) → call.Submits seq result →
    later.Submits number other → seq < number
  /-- A verdict repeats the data of an earlier submission, made outside of dev rounds. -/
  origin : ∀ (before : List Entry) (entry : Entry) (after : List Entry) (report : ShareReport)
    (status : ShareStatus), history = before ++ entry :: after →
    (report, status) ∈ entry.reports → status ≠ .partialShare →
    ∃ call ∈ before, ∃ result job, call.Submits report.seq result ∧
      call.client.jobs.current = some job ∧ job.candidate.devRound = false ∧
      report.difficulty = result.difficulty ∧
      report.actualDifficulty = result.actualDifficulty ∧ report.backend = result.backend
  /-- No submission gets two verdicts. -/
  once : (history.flatMap fun entry : Entry => ruled entry.effects).Nodup
  /-- The first completion of a submission gives a verdict, unless the job at the time of the
  submission was a dev round. -/
  answered : ∀ (before : List Entry) (call : Entry) (between : List Entry) (entry : Entry)
    (after : List Entry) (seq : Nat) (result : JobResult) (reply : Except Error Response),
    history = before ++ call :: (between ++ entry :: after) → call.Submits seq result →
    (∀ other ∈ between, ¬ other.Completes seq ∧ ¬ other.Resets) →
    entry.input = .complete seq reply →
    ∃ job status, call.client.jobs.current = some job ∧ status ≠ .partialShare ∧ entry.reports =
      if job.candidate.devRound then []
      else [(⟨seq, result.difficulty, result.actualDifficulty, result.backend,
        entry.now - call.now⟩, status)]
  /-- Nothing is reported on a submission from before a reset. -/
  forgotten : ∀ (before : List Entry) (call : Entry) (between : List Entry) (reset : Entry)
    (after : List Entry) (seq : Nat) (result : JobResult),
    history = before ++ call :: (between ++ reset :: after) → call.Submits seq result →
    reset.Resets → ∀ later ∈ reset :: after, ∀ report status,
      (report, status) ∈ later.reports → report.seq ≠ seq
  /-- A result for a dev-round job is never reported, neither at once nor when it was sent. -/
  silent : ∀ (before : List Entry) (call : Entry) (after : List Entry) (result : JobResult)
    (job : Job), history = before ++ call :: after →
    call.input = .submit result → call.client.jobs.current = some job →
    job.candidate.devRound = true → call.reports = [] ∧
      ∀ seq, call.Submits seq result → ∀ later ∈ after, ∀ report status,
        (report, status) ∈ later.reports → report.seq ≠ seq
  /-- A partial share is reported when it is handed in, for the current job, outside of dev rounds,
  and under no number. -/
  partials : ∀ entry ∈ history, ∀ report : ShareReport, (report, .partialShare) ∈ entry.reports →
    ∃ result job, entry.input = .submit result ∧ entry.client.jobs.current = some job ∧
      job.id = result.jobId ∧ job.candidate.devRound = false ∧ report = result.partialReport

@[simp] theorem told_append (first second : List Effect) :
    told (first ++ second) = told first ++ told second := List.filterMap_append

@[simp] theorem told_greeting (client : Client) : told client.greeting = [] := by
  unfold greeting
  split <;> rfl

@[simp] theorem told_verdict (now : Nat) (submission : Submission)
    (result : Except Error Response) :
    told (verdict now submission result) =
      if submission.devRound then []
      else [(submission.report now, (submissionOutcome result).1)] := by
  unfold verdict
  split <;> rfl

theorem submissionOutcome_ne_partialShare (result : Except Error Response) :
    (submissionOutcome result).1 ≠ .partialShare := by
  unfold submissionOutcome
  split
  · simp
  · split
    · simp
    next value _ =>
      unfold ShareStatus.ofResult
      split
      · simp
      · split <;> simp
      · simp

variable {client next : Client} {now : Nat} {input : Input} {effects : List Effect}
  {answer : Answer}

theorem Transition.nextId_le (moved : client.Transition now input next effects answer) :
    client.rpc.nextId ≤ next.rpc.nextId := by
  cases moved with
  | connect | tick | resolved | sent | generated => exact Nat.le_succ _
  | stay | disconnect | refused | kept | published | undelivered | resolvedMeanwhile | unclaimed
  | above | reconfigured => exact Nat.le_refl _

theorem Transition.submits (seq : Nat) (result : JobResult)
    (moved : client.Transition now (.submit result) next effects (.submitted (.ok seq))) :
    ∃ job, client.jobs.current = some job ∧ seq = client.rpc.nextId ∧
      next.submissions = client.record now job result :: client.submissions ∧
      next.rpc.nextId = client.rpc.nextId + 1 := by
  cases moved with
  | stay _ _ stays => simp [Stays] at stays
  | sent _ job current => exact ⟨job,current,rfl,rfl,rfl⟩

theorem Transition.submissions_origin (moved : client.Transition now input next effects answer)
    (submission : Submission) (live : submission ∈ next.submissions) :
    submission ∈ client.submissions ∨
      ∃ result job, input = .submit result ∧ answer = .submitted (.ok submission.seq) ∧
        client.jobs.current = some job ∧ submission = client.record now job result := by
  cases moved with
  | disconnect => simp [dropped] at live
  | reconfigured => simp [dropped] at live
  | undelivered => exact .inl (List.mem_filter.mp live).1
  | resolved => exact .inl (List.mem_filter.mp live).1
  | resolvedMeanwhile => exact .inl (List.mem_filter.mp live).1
  | sent result job current =>
    rcases List.mem_cons.mp live with rfl | old
    · exact .inr ⟨result,job,rfl,rfl,current,rfl⟩
    · exact .inl old
  | stay | connect | tick | refused | kept | published | unclaimed | above | generated =>
    exact .inl live

private theorem told_struck (now id : Nat) (submission : Submission)
    (reply : Except Error Response)
    (found : client.submissions.find? (·.seq == id) = some submission) :
    told (verdict now submission reply) = [] ∨
      submission ∈ client.submissions ∧ submission.seq = id ∧ submission.devRound = false ∧
        told (verdict now submission reply) =
          [(submission.report now, (submissionOutcome reply).1)] := by
  have same : submission.seq = id := by simpa using List.find?_some found
  cases dev : submission.devRound with
  | true => exact .inl (by simp [dev])
  | false => exact .inr ⟨List.mem_of_find?_eq_some found,same,rfl,by simp [dev]⟩

/-- What is told is the verdict on a submission that is then struck off, or a partial share. -/
theorem Transition.told_cases (moved : client.Transition now input next effects answer) :
    told effects = [] ∨
    (∃ reply submission, submission ∈ client.submissions ∧
      input = .complete submission.seq reply ∧ submission.devRound = false ∧
      next.submissions = client.submissions.filter (·.seq != submission.seq) ∧
      told effects = [(submission.report now, (submissionOutcome reply).1)]) ∨
    (∃ result job, input = .submit result ∧ client.jobs.current = some job ∧
      job.id = result.jobId ∧ job.candidate.devRound = false ∧
      told effects = [(result.partialReport, .partialShare)]) := by
  cases moved with
  | undelivered id failures reply submission busy unawaited found =>
    rcases told_struck now id submission reply found with silent | ⟨live,rfl,dev,spoken⟩
    · exact .inl (by rw [told_append,silent]; rfl)
    · exact .inr (.inl ⟨reply,submission,live,rfl,dev,rfl,by rw [told_append,spoken]; rfl⟩)
  | resolved id reply submission busy free found =>
    rcases told_struck now id submission reply found with silent | ⟨live,rfl,dev,spoken⟩
    · exact .inl (by rw [told_append,silent]; rfl)
    · exact .inr (.inl ⟨reply,submission,live,rfl,dev,rfl,by rw [told_append,spoken]; rfl⟩)
  | resolvedMeanwhile id awaited reply submission busy waiting other found =>
    rcases told_struck now id submission reply found with silent | ⟨live,rfl,dev,spoken⟩
    · exact .inl silent
    · exact .inr (.inl ⟨reply,submission,live,rfl,dev,rfl,spoken⟩)
  | above result job current same =>
    cases dev : job.candidate.devRound with
    | true => exact .inl rfl
    | false => exact .inr (.inr ⟨result,job,rfl,current,same,dev,rfl⟩)
  | kept => exact .inl (told_greeting client)
  | published => exact .inl (by rw [told_append,told_greeting]; rfl)
  | reconfigured => exact .inl (by split <;> rfl)
  | stay | connect | disconnect | tick | refused | unclaimed | sent | generated => exact .inl rfl

/-- A report is the verdict on a submission that was live, or of a partial share. -/
theorem Transition.spoken (moved : client.Transition now input next effects answer)
    (report : ShareReport) (status : ShareStatus) (said : (report,status) ∈ told effects) :
    (∃ reply submission, submission ∈ client.submissions ∧ submission.devRound = false ∧
      report = submission.report now ∧ status = (submissionOutcome reply).1) ∨
    (∃ result job, input = .submit result ∧ client.jobs.current = some job ∧
      job.id = result.jobId ∧ job.candidate.devRound = false ∧
      report = result.partialReport ∧ status = .partialShare) := by
  rcases moved.told_cases with silent | ⟨reply,submission,live,_,outside,_,one⟩ |
    ⟨result,job,asked,current,same,outside,one⟩
  · simp [silent] at said
  · rw [one,List.mem_singleton,Prod.mk.injEq] at said
    exact .inl ⟨reply,submission,live,outside,said.1,said.2⟩
  · rw [one,List.mem_singleton,Prod.mk.injEq] at said
    exact .inr ⟨result,job,asked,current,same,outside,said.1,said.2⟩

structure Silenced (client : Client) (seq : Nat) : Prop where
  positive : 0 < seq
  issued : seq < client.rpc.nextId
  quiet : ∀ submission ∈ client.submissions, submission.seq = seq → submission.devRound = true

theorem Transition.silenced (moved : client.Transition now input next effects answer) (seq : Nat)
    (silenced : client.Silenced seq) : next.Silenced seq := by
  refine ⟨silenced.positive,lt_of_lt_of_le silenced.issued moved.nextId_le,?_⟩
  intro submission live same
  rcases moved.submissions_origin submission live with old | ⟨result,job,_,_,_,rfl⟩
  · exact silenced.quiet submission old same
  · exact absurd same (Nat.ne_of_gt silenced.issued)

theorem Transition.unreported (moved : client.Transition now input next effects answer) (seq : Nat)
    (silenced : client.Silenced seq) (report : ShareReport) (status : ShareStatus)
    (said : (report,status) ∈ told effects) : report.seq ≠ seq := by
  intro same
  rcases moved.spoken report status said with ⟨reply,submission,live,outside,rfl,_⟩ |
    ⟨result,_,_,_,_,_,rfl,_⟩
  · simp [silenced.quiet submission live same] at outside
  · exact absurd same (Nat.ne_of_lt silenced.positive)

theorem Transition.reset (moved : client.Transition now input next effects answer)
    (coherent : client.Coherent)
    (resets : Drops input answer) :
    told effects = [] ∧ next.submissions = [] := by
  constructor
  · rcases moved.told_cases with silent | ⟨_,_,_,asked,_⟩ | ⟨_,_,asked,_⟩
    · exact silent
    · simp [Drops,asked] at resets
    · simp [Drops,asked] at resets
  · rcases resets with rfl | ⟨settings,entropy,rfl,rfl⟩
    · cases moved with
      | stay _ _ stays => exact (coherent.resting stays.2).2.1
      | disconnect => rfl
    · cases moved with
      | stay _ _ stays =>
        obtain ⟨fault,same,_⟩ := stays
        simp at same
      | reconfigured => rfl

/-- Only its completion and a reset strike a submission off. -/
theorem Transition.held (moved : client.Transition now input next effects answer)
    (submission : Submission) (seq : Nat) (issued : seq < client.rpc.nextId)
    (found : client.submissions.find? (·.seq == seq) = some submission)
    (uncompleted : ∀ reply, input ≠ .complete seq reply)
    (unreset : ¬ Drops input answer) :
    next.submissions.find? (·.seq == seq) = some submission := by
  have others (id : Nat) (different : id ≠ seq) :
      (client.submissions.filter (·.seq != id)).find? (·.seq == seq) = some submission := by
    rw [List.find?_filter,← found]
    congr 1
    funext other
    by_cases same : other.seq = seq
    · simp [same,different.symm]
    · simp [same]
  have another (id : Nat) (result : Except Error Response)
      (asked : input = .complete id result) : id ≠ seq := by
    rintro rfl
    exact uncompleted result asked
  cases moved with
  | disconnect => simp [Drops] at unreset
  | reconfigured => simp [Drops] at unreset
  | undelivered id _ result => exact others id (another id result rfl)
  | resolved id result => exact others id (another id result rfl)
  | resolvedMeanwhile id _ result => exact others id (another id result rfl)
  | sent result job =>
    rw [← found]
    exact List.find?_cons_of_neg (by simpa [record] using Nat.ne_of_gt issued)
  | stay | connect | tick | refused | kept | published | unclaimed | above | generated =>
    exact found

theorem Transition.told_completion (seq : Nat) (reply : Except Error Response)
    (moved : client.Transition now (.complete seq reply) next effects answer)
    (coherent : client.Coherent) (numbered : client.Numbered) (submission : Submission)
    (found : client.submissions.find? (·.seq == seq) = some submission) :
    told effects = told (verdict now submission reply) := by
  have live := List.mem_of_find?_eq_some found
  have same : submission.seq = seq := by simpa using List.find?_some found
  subst same
  cases (moved.answered coherent numbered live).2 with
  | lost => exact (told_append _ _).trans (List.append_nil _)
  | asking => exact (told_append _ _).trans (List.append_nil _)
  | waiting => rfl

def Issued (history : List Entry) (submission : Submission) : Prop :=
  ∃ call ∈ history, ∃ result job, call.Submits submission.seq result ∧
    call.client.jobs.current = some job ∧ submission = call.client.record call.now job result

theorem Run.issued (history : List Entry) (run : Run history client) (submission : Submission)
    (live : submission ∈ client.submissions) : Issued history submission := by
  induction run with
  | create settings entropy client made =>
    obtain ⟨coherent,idle,_⟩ := create_coherent settings entropy made
    obtain ⟨_,empty,_⟩ := coherent.resting idle
    simp [empty] at live
  | step history entry earlier ih =>
    rcases (earlier.transition entry).submissions_origin submission live with
      old | ⟨result,job,asked,answered,current,same⟩
    · obtain ⟨call,past,source⟩ := ih old
      exact ⟨call,List.mem_append_left _ past,source⟩
    · exact ⟨entry,by simp,result,job,⟨asked,answered⟩,current,same⟩

theorem Run.submits (before : List Entry) (call : Entry) (seq : Nat) (result : JobResult)
    (met : Run before call.client) (submits : call.Submits seq result) :
    ∃ job, call.client.jobs.current = some job ∧ seq = call.client.rpc.nextId ∧
      call.next.submissions = call.client.record call.now job result :: call.client.submissions ∧
      0 < seq ∧ seq < call.next.rpc.nextId := by
  have moved := met.transition call
  rw [submits.1,submits.2] at moved
  obtain ⟨job,current,same,sent,counted⟩ := moved.submits seq result
  have positive := met.numbered.positive
  exact ⟨job,current,same,sent,by omega,by omega⟩

theorem Run.nextId_le (before : List Entry) (entry : Entry) (after : List Entry)
    (run : Run (before ++ entry :: after) client) :
    entry.next.rpc.nextId ≤ client.rpc.nextId := by
  apply run.since (fun _ middle => entry.next.rpc.nextId ≤ middle.rpc.nextId)
  · exact Nat.le_refl _
  · intro between later reached earlier
    exact earlier.trans (reached.transition later).nextId_le

theorem Run.unreported (before : List Entry) (entry : Entry) (after : List Entry)
    (run : Run (before ++ entry :: after) client) (seq : Nat) (silenced : entry.next.Silenced seq)
    (later : Entry) (follows : later ∈ after) (report : ShareReport) (status : ShareStatus)
    (said : (report,status) ∈ later.reports) : report.seq ≠ seq := by
  obtain ⟨between,rest,rfl⟩ := List.append_of_mem follows
  rw [← List.cons_append,← List.append_assoc] at run
  have met := run.met _ later rest
  have still : later.client.Silenced seq := by
    apply met.since (fun _ middle => middle.Silenced seq)
    · exact silenced
    · intro _ other reached earlier
      exact (reached.transition other).silenced seq earlier
  exact (met.transition later).unreported seq still report status said

theorem Run.ordered (before : List Entry) (call : Entry) (between : List Entry) (later : Entry)
    (after : List Entry) (run : Run (before ++ call :: (between ++ later :: after)) client)
    (seq number : Nat) (result other : JobResult) (first : call.Submits seq result)
    (second : later.Submits number other) : seq < number := by
  obtain ⟨_,_,_,_,_,below⟩ := (run.met before call _).submits before call seq result first
  rw [← List.cons_append,← List.append_assoc] at run
  have met := run.met _ later after
  obtain ⟨_,_,same,_⟩ := met.submits _ later number other second
  have grown := met.nextId_le before call between
  omega

theorem Run.verdict_origin (before : List Entry) (entry : Entry) (met : Run before entry.client)
    (report : ShareReport) (status : ShareStatus) (said : (report,status) ∈ entry.reports)
    (full : status ≠ .partialShare) :
    ∃ call ∈ before, ∃ result job, call.Submits report.seq result ∧
      call.client.jobs.current = some job ∧ job.candidate.devRound = false ∧
      report.difficulty = result.difficulty ∧
      report.actualDifficulty = result.actualDifficulty ∧ report.backend = result.backend := by
  rcases (met.transition entry).spoken report status said with
    ⟨reply,submission,live,outside,rfl,_⟩ | ⟨_,_,_,_,_,_,_,share⟩
  · obtain ⟨call,past,result,job,submits,current,source⟩ := met.issued before submission live
    rw [source] at outside
    refine ⟨call,past,result,job,submits,current,outside,?_⟩
    rw [source]
    exact ⟨rfl,rfl,rfl⟩
  · exact absurd share full

theorem Transition.ruled_cases (moved : client.Transition now input next effects answer)
    (numbered : client.Numbered) :
    ruled effects = [] ∨ ∃ submission ∈ client.submissions, submission.devRound = false ∧
      ruled effects = [submission.seq] ∧ next.Silenced submission.seq := by
  rcases moved.told_cases with silent | ⟨reply,submission,live,_,outside,struck,said⟩ |
    ⟨_,_,_,_,_,_,said⟩
  · exact .inl (by simp [ruled,silent])
  · obtain ⟨positive,below⟩ := numbered.submission submission live
    refine .inr ⟨submission,live,outside,?_,positive,lt_of_lt_of_le below moved.nextId_le,?_⟩
    · simp [ruled,said,submissionOutcome_ne_partialShare,Submission.report]
    · intro other present same
      rw [struck] at present
      simp [same] at present
  · exact .inl (by simp [ruled,said])

theorem Run.ruled_silenced (history : List Entry) (run : Run history client) :
    (history.flatMap fun entry => ruled entry.effects).Nodup ∧
      ∀ seq ∈ history.flatMap fun entry => ruled entry.effects, client.Silenced seq := by
  induction run with
  | create => simp
  | step history entry earlier ih =>
    obtain ⟨distinct,silenced⟩ := ih
    have moved := earlier.transition entry
    have still (seq : Nat) (past : seq ∈ history.flatMap fun entry => ruled entry.effects) :
        entry.next.Silenced seq := moved.silenced seq (silenced seq past)
    simp only [List.flatMap_append,List.flatMap_singleton]
    -- A number that has been ruled on is silenced, so the next verdict has another one.
    rcases moved.ruled_cases earlier.numbered with none | ⟨submission,live,outside,one,ended⟩
    · rw [none,List.append_nil]
      exact ⟨distinct,still⟩
    · rw [one]
      constructor
      · rw [← List.concat_eq_append,List.nodup_concat]
        refine ⟨?_,distinct⟩
        intro past
        simp [(silenced _ past).quiet submission live rfl] at outside
      · intro seq member
        rcases List.mem_append.mp member with past | new
        · exact still seq past
        · cases List.mem_singleton.mp new
          exact ended

theorem Run.answered (before : List Entry) (call : Entry) (between : List Entry) (entry : Entry)
    (after : List Entry) (run : Run (before ++ call :: (between ++ entry :: after)) client)
    (seq : Nat) (result : JobResult) (reply : Except Error Response)
    (submits : call.Submits seq result)
    (first : ∀ other ∈ between, ¬ other.Completes seq ∧ ¬ other.Resets)
    (asked : entry.input = .complete seq reply) :
    ∃ job status, call.client.jobs.current = some job ∧ status ≠ .partialShare ∧ entry.reports =
      if job.candidate.devRound then []
      else [(⟨seq,result.difficulty,result.actualDifficulty,result.backend,entry.now - call.now⟩,
        status)] := by
  obtain ⟨job,current,number,sent,_,below⟩ :=
    (run.met before call _).submits before call seq result submits
  rw [← List.cons_append,← List.append_assoc] at run
  have met := run.met _ entry after
  -- The record of the call stays in the list, and the dev round of that time with it.
  have waits : seq < entry.client.rpc.nextId ∧
      entry.client.submissions.find? (·.seq == seq) =
        some (call.client.record call.now job result) := by
    revert first
    apply met.since (fun between middle =>
      (∀ other ∈ between, ¬ other.Completes seq ∧ ¬ other.Resets) →
        seq < middle.rpc.nextId ∧ middle.submissions.find? (·.seq == seq) =
          some (call.client.record call.now job result))
    · intro _
      refine ⟨below,?_⟩
      rw [sent]
      exact List.find?_cons_of_pos (by simp [record,number])
    · intro past other reached earlier first
      obtain ⟨issued,found⟩ := earlier fun entry member =>
        first entry (List.mem_append_left _ member)
      obtain ⟨uncompleted,unreset⟩ := first other (by simp)
      have moved := reached.transition other
      refine ⟨lt_of_lt_of_le issued moved.nextId_le,moved.held _ seq issued found ?_ unreset⟩
      intro reply asked
      exact uncompleted ⟨reply,asked⟩
  have moved := met.transition entry
  rw [asked] at moved
  refine ⟨job,(submissionOutcome reply).1,current,submissionOutcome_ne_partialShare reply,?_⟩
  rw [Entry.reports,moved.told_completion seq reply met.coherent met.numbered _ waits.2,told_verdict,
    number]
  rfl

theorem Run.forgotten (before : List Entry) (call : Entry) (between : List Entry) (reset : Entry)
    (after : List Entry) (run : Run (before ++ call :: (between ++ reset :: after)) client)
    (seq : Nat) (result : JobResult) (submits : call.Submits seq result) (resets : reset.Resets)
    (later : Entry) (follows : later ∈ reset :: after) (report : ShareReport)
    (status : ShareStatus) (said : (report,status) ∈ later.reports) : report.seq ≠ seq := by
  obtain ⟨_,_,_,_,positive,below⟩ :=
    (run.met before call _).submits before call seq result submits
  rw [← List.cons_append,← List.append_assoc] at run
  have met := run.met _ reset after
  have moved := met.transition reset
  obtain ⟨silent,empty⟩ := moved.reset met.coherent resets
  rcases List.mem_cons.mp follows with rfl | follows
  · simp [Entry.reports,silent] at said
  · have issued := below.trans_le (met.nextId_le before call between)
    have silenced : reset.next.Silenced seq :=
      ⟨positive,issued.trans_le moved.nextId_le,by simp [empty]⟩
    exact run.unreported _ reset after seq silenced later follows report status said

theorem Run.silent (before : List Entry) (call : Entry) (after : List Entry)
    (run : Run (before ++ call :: after) client) (result : JobResult) (job : Job)
    (asked : call.input = .submit result) (current : call.client.jobs.current = some job)
    (dev : job.candidate.devRound = true) :
    call.reports = [] ∧ ∀ seq, call.Submits seq result → ∀ later ∈ after, ∀ report status,
      (report,status) ∈ later.reports → report.seq ≠ seq := by
  have met := run.met before call after
  constructor
  · rcases (met.transition call).told_cases with silent | ⟨_,_,_,other,_⟩ |
      ⟨_,_,_,present,_,outside,_⟩
    · exact silent
    · simp [asked] at other
    · cases Option.some.inj (present.symm.trans current)
      simp [dev] at outside
  · intro seq submits later follows report status said
    obtain ⟨_,present,number,sent,positive,below⟩ := met.submits before call seq result submits
    cases Option.some.inj (present.symm.trans current)
    have silenced : call.next.Silenced seq := by
      refine ⟨positive,below,?_⟩
      intro submission live same
      rw [sent] at live
      rcases List.mem_cons.mp live with rfl | old
      · exact dev
      · have earlier := (met.numbered.submission submission old).2
        omega
    exact run.unreported before call after seq silenced later follows report status said

theorem Run.partials (before : List Entry) (entry : Entry) (met : Run before entry.client)
    (report : ShareReport) (said : (report,.partialShare) ∈ entry.reports) :
    ∃ result job, entry.input = .submit result ∧ entry.client.jobs.current = some job ∧
      job.id = result.jobId ∧ job.candidate.devRound = false ∧ report = result.partialReport := by
  rcases (met.transition entry).spoken report _ said with ⟨reply,_,_,_,_,share⟩ |
    ⟨result,job,asked,current,same,outside,equal,_⟩
  · exact absurd share.symm (submissionOutcome_ne_partialShare reply)
  · exact ⟨result,job,asked,current,same,outside,equal⟩

/-- The books of every run are in order, whatever completions arrive and in whatever order. -/
theorem run_accounting (history : List Entry) (client : Client) (run : Run history client) :
    Accounting history where
  ordered := by
    rintro before call between later after seq number result other rfl
    exact run.ordered before call between later after seq number result other
  origin := by
    rintro before entry after report status rfl
    exact (run.met before entry after).verdict_origin before entry report status
  once := run.ruled_silenced.1
  answered := by
    rintro before call between entry after seq result reply rfl
    exact run.answered before call between entry after seq result reply
  forgotten := by
    rintro before call between reset after seq result rfl
    exact run.forgotten before call between reset after seq result
  silent := by
    rintro before call after result job rfl
    exact run.silent before call after result job
  partials := by
    intro entry member report
    obtain ⟨before,after,rfl⟩ := List.append_of_mem member
    exact (run.met before entry after).partials before entry report

theorem run_accounting_verdict : ∃ before entry after client,
    Run (before ++ entry :: after) client ∧ ruled entry.effects = [2] ∧
      Accounting (before ++ entry :: after) := by
  obtain ⟨before,entry,after,client,run,spoken⟩ := exists_run _ _ Sample.run
    [(2, .submit Sample.solution), (3, .complete 2 Sample.taken), (4, .complete 2 Sample.taken)]
    (fun entry _ _ => ruled entry.effects = [2]) (by decide +kernel)
  exact ⟨before,entry,after,client,run,spoken,run_accounting _ client run⟩

end SoloMining.Client
