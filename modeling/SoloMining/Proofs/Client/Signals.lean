import SoloMining.Proofs.Client.Gate
import SoloMining.Proofs.Client.InFlight

/-! What the backends hear of the connection. A session is down, after some number of failures, or
up; only some calls are allowed in each standing, and the client is always in the standing that the
calls lead to, as long as 32 bits count the failures of a session. A job is handed out right after
the record of its own reward, and no other reward is recorded. -/
namespace SoloMining

theorem BlockBuilder.build_reward (builder : BlockBuilder) (t : Template) (candidate : Candidate)
    (built : (builder.build t).1 = .ok candidate) :
    candidate.reward = ⟨builder.payee.coin, candidate.coinbase.minerReward⟩ := by
  obtain ⟨dice,moved⟩ := builder.build_dice t
  obtain ⟨fields,_,_,made⟩ := build_eq_ok.mp (Prod.ext built moved)
  obtain ⟨coinbase,root,_,_,rfl⟩ := assemble_eq_ok.mp made
  rfl

namespace Client

/-- A call that tells of the connection. Which job it is does not matter here. -/
inductive Signal
  | close (failures : Nat)
  | login
  | job
deriving DecidableEq

def signal? : Effect → Option Signal
  | .close failures => some (.close failures.toNat)
  | .login => some .login
  | .job _ => some .job
  | _ => none

def signals (effects : List Effect) : List Signal := effects.filterMap signal?

def Signal.isClose : Signal → Bool
  | .close _ => true
  | _ => false

def closings (effects : List Effect) : Nat := (signals effects).countP Signal.isClose

inductive Standing
  | down (failures : Nat)
  | up
deriving DecidableEq

namespace Standing

def hear : Standing → Signal → Option Standing
  | .down failures, .close count => if count = failures + 1 then some (.down count) else none
  | .down _, .login => some .up
  | .down _, .job => none
  | .up, .close count => if count = 1 then some (.down 1) else none
  | .up, .login => none
  | .up, .job => some .up

def follow (standing : Standing) (calls : List Signal) : Option Standing := calls.foldlM hear standing

def Suits (client : Client) : Standing → Prop
  | .down failures => client.state = .connecting ∧
      client.failures.map UInt32.toNat = some failures
  | .up => client.state = .connected

def failures : Standing → Nat
  | .down failures => failures
  | .up => 0

/-- Some calls go on to where the client is, and the failures there are among those told so far. -/
def LeadsTo (standing : Standing) (effects : List Effect) (client : Client) : Prop :=
  ∃ heard, standing.follow (signals effects) = some heard ∧ heard.Suits client ∧
    heard.failures ≤ standing.failures + closings effects

end Standing

def plain : Effect → Bool
  | .reward _ | .job _ => false
  | _ => true

inductive Announced : List Effect → Prop
  | nil : Announced []
  | other (effect : Effect) (rest : List Effect) (apart : plain effect = true)
      (tail : Announced rest) : Announced (effect :: rest)
  | pair (job : Job) (rest : List Effect) (tail : Announced rest) :
      Announced (.reward job.candidate.reward :: .job job :: rest)

def Greeted (effects : List Effect) : Prop :=
  ∃ first period job rest, .login ∉ first ∧ effects = first ++
    ([.login, .startTimer period true, .reward job.candidate.reward, .job job] ++ rest)

def happened (history : List Entry) : List Effect := history.flatMap Entry.effects

structure Protocol (history : List Entry) (client : Client) : Prop where
  /-- From an opening on, all calls are allowed, and they lead to where the client is. -/
  followed : ∀ (before : List Entry) (opening : Entry) (since : List Entry),
    history = before ++ opening :: since → opening.Opens → (∀ later ∈ since, ¬ later.Resets) →
    closings (happened (opening :: since)) < 2 ^ 32 →
    ∃ standing, Standing.follow (.down 0) (signals (happened (opening :: since))) = some standing ∧
      (standing = .up ↔ client.state = .connected) ∧
      ∀ failures, standing = .down failures ↔
        client.state = .connecting ∧ client.failures.map UInt32.toNat = some failures
  /-- Nothing is said outside of a session, nor by the reset that ends one. -/
  silent : ∀ entry ∈ history, entry.client.state = .unconnected ∨ entry.Resets →
    signals entry.effects = []
  greeted : ∀ (before : List Entry) (opening : Entry) (since : List Entry),
    history = before ++ opening :: since → opening.Opens → (∀ later ∈ since, ¬ later.Resets) →
    .login ∈ happened (opening :: since) → Greeted (happened (opening :: since))
  announced : Announced (happened history)
  /-- The reward of a job is what its coinbase pays the miner, in the coin of the client. -/
  rewarded : ∀ entry ∈ history, ∀ job : Job, .job job ∈ entry.effects →
    job.candidate.reward =
      ⟨entry.client.jobs.builder.payee.coin, job.candidate.coinbase.minerReward⟩

@[simp] theorem signals_append (first second : List Effect) :
    signals (first ++ second) = signals first ++ signals second := List.filterMap_append

theorem login_of_signalled (effects : List Effect) (signalled : .login ∈ signals effects) :
    .login ∈ effects := by
  obtain ⟨effect,member,same⟩ := List.mem_filterMap.mp signalled
  cases effect with
  | login => exact member
  | fetch | startTimer | stopTimer | reward | job | close | result => cases same

@[simp] theorem signals_verdict (now : Nat) (submission : Submission)
    (result : Except Error Response) : signals (verdict now submission result) = [] := by
  unfold verdict
  split <;> rfl

@[simp] theorem closings_append (first second : List Effect) :
    closings (first ++ second) = closings first + closings second := by
  simp [closings]

@[simp] theorem plain_verdict (now : Nat) (submission : Submission)
    (result : Except Error Response) : (verdict now submission result).all plain = true := by
  unfold verdict
  split <;> rfl

@[simp] theorem plain_greeting (client : Client) : client.greeting.all plain = true := by
  unfold greeting
  split <;> rfl

@[simp] theorem happened_append (history : List Entry) (entry : Entry) :
    happened (history ++ [entry]) = happened history ++ entry.effects := by
  simp [happened]

theorem Standing.follow_append (standing : Standing) (first second : List Signal) :
    standing.follow (first ++ second) =
      (standing.follow first).bind fun middle => middle.follow second := List.foldlM_append

variable {client next : Client} {now : Nat} {input : Input} {effects : List Effect}
  {answer : Answer}

theorem Standing.Suits.busy (standing : Standing) (suits : standing.Suits client) :
    client.state ≠ .unconnected := by
  cases standing with
  | down => simp [suits.1]
  | up =>
    intro idle
    exact absurd (suits.symm.trans idle) nofun

private theorem follow_silence (standing : Standing) (suits : standing.Suits client)
    (silent : signals effects = []) (state : next.state = client.state)
    (failures : next.failures = client.failures) : standing.LeadsTo effects next := by
  refine ⟨standing,by rw [silent]; rfl,?_,Nat.le_add_right _ _⟩
  cases standing with
  | down count => exact ⟨state.trans suits.1,failures ▸ suits.2⟩
  | up => exact state.trans suits

/-- A failure counts one up from where the connection stands; a connected client counts none. -/
private theorem follow_close (coherent : client.Coherent) (standing : Standing)
    (suits : standing.Suits client) (count : UInt32) (counted : client.failures = some count)
    (few : standing.failures + 1 < 2 ^ 32) :
    (count + 1).toNat = standing.failures + 1 ∧
      standing.follow [.close (count + 1).toNat] = some (.down (count + 1).toNat) := by
  have known : count.toNat = standing.failures := by
    cases standing with
    | down failures =>
      have told := suits.2
      rw [counted] at told
      exact Option.some.inj told
    | up =>
      have none_failed := (coherent.working suits).1
      cases Option.some.inj (none_failed.symm.trans counted)
      rfl
  have next : (count + 1).toNat = standing.failures + 1 := by
    rw [UInt32.toNat_add,known]
    exact Nat.mod_eq_of_lt few
  refine ⟨next,?_⟩
  rw [next]
  cases standing <;> simp [Standing.follow,Standing.hear,Standing.failures]

private theorem closed_leads (coherent : client.Coherent) (standing : Standing)
    (suits : standing.Suits client) (count : UInt32) (counted : client.failures = some count)
    (told : signals effects = [.close (count + 1).toNat])
    (few : standing.failures + closings effects < 2 ^ 32) (state : next.state = .connecting)
    (failures : next.failures = some (count + 1)) : standing.LeadsTo effects next := by
  have once : closings effects = 1 := by
    rw [closings,told]
    rfl
  rw [once] at few
  obtain ⟨more,follows⟩ := follow_close coherent standing suits count counted few
  refine ⟨.down (count + 1).toNat,?_,⟨state,by rw [failures]; rfl⟩,?_⟩
  · rw [told]
    exact follows
  · rw [once]
    exact Nat.le_of_eq more

private theorem follow_greeting (standing : Standing) (suits : standing.Suits client) :
    standing.follow (signals client.greeting) = some .up := by
  cases standing with
  | down failures =>
    simp only [greeting,suits.1]
    rfl
  | up =>
    have connected : client.state = .connected := suits
    simp only [greeting,connected]
    rfl

theorem Transition.followed (moved : client.Transition now input next effects answer)
    (coherent : client.Coherent) (lasting : ¬ Drops input answer) (standing : Standing)
    (suits : standing.Suits client) (few : standing.failures + closings effects < 2 ^ 32) :
    standing.LeadsTo effects next := by
  cases moved with
  | connect idle => exact absurd idle suits.busy
  | disconnect => exact absurd (.inl rfl) lasting
  | reconfigured settings entropy => exact absurd (.inr ⟨settings,entropy,rfl,rfl⟩) lasting
  | refused id count result dice busy awaited counted =>
    exact closed_leads coherent standing suits count counted rfl few rfl rfl
  | undelivered id count result submission busy unawaited found counted =>
    refine closed_leads coherent standing suits count counted ?_ few rfl rfl
    rw [signals_append,signals_verdict]
    rfl
  | kept => exact ⟨_,follow_greeting standing suits,rfl,Nat.zero_le _⟩
  | published =>
    refine ⟨.up,?_,rfl,Nat.zero_le _⟩
    rw [signals_append,Standing.follow_append,follow_greeting standing suits]
    rfl
  | resolved =>
    refine follow_silence standing suits ?_ rfl rfl
    rw [signals_append,signals_verdict]
    rfl
  | resolvedMeanwhile => exact follow_silence standing suits (signals_verdict ..) rfl rfl
  | above =>
    refine follow_silence standing suits ?_ rfl rfl
    split <;> rfl
  | stay | tick | unclaimed | sent | generated => exact follow_silence standing suits rfl rfl rfl

theorem Transition.silent (moved : client.Transition now input next effects answer)
    (quiet : client.state = .unconnected ∨ Drops input answer) : signals effects = [] := by
  have drops (busy : client.state ≠ .unconnected) : Drops input answer := quiet.resolve_left busy
  cases moved with
  | refused _ _ _ _ busy | kept _ _ _ busy | published _ _ _ _ _ _ _ busy
  | undelivered _ _ _ _ busy =>
    -- These complete a request, which neither resets the client nor happens at rest.
    have dropped := drops busy
    simp [Drops] at dropped
  | resolved =>
    rw [signals_append,signals_verdict]
    rfl
  | resolvedMeanwhile => exact signals_verdict ..
  | above | reconfigured => split <;> rfl
  | stay | connect | disconnect | tick | unclaimed | sent | generated => rfl

/-- Before the first login there is no job, so the template that brings it makes one. -/
theorem Transition.greeted (moved : client.Transition now input next effects answer)
    (coherent : client.Coherent) (jobless : client.jobs.current = none) :
    (.login ∉ effects ∧ next.jobs.current = none) ∨
      ∃ period job, effects =
        [.login, .startTimer period true, .reward job.candidate.reward, .job job] := by
  have unheard (time : Nat) (submission : Submission) (result : Except Error Response) :
      .login ∉ verdict time submission result := by
    unfold verdict
    split <;> simp
  cases moved with
  | kept _ _ _ _ _ _ held => simp [jobless] at held
  | published id result t height previousHash candidate dice busy =>
    have unready : client.state ≠ .connected := by
      intro connected
      have held := (coherent.working connected).2
      simp [jobless] at held
    simp only [greeting,unready,if_false]
    exact .inr ⟨_,⟨_,_,now,candidate⟩,rfl⟩
  | disconnect => exact .inl ⟨by simp,rfl⟩
  | reconfigured settings entropy jobs usable =>
    obtain ⟨_,empty,_⟩ := jobBoard_fresh settings entropy _ jobs usable
    exact .inl ⟨by split <;> simp,empty⟩
  | undelivered => exact .inl ⟨by simp [unheard],jobless⟩
  | resolved => exact .inl ⟨by simp [unheard],jobless⟩
  | resolvedMeanwhile => exact .inl ⟨unheard _ _ _,jobless⟩
  | above => exact .inl ⟨by split <;> simp,jobless⟩
  | stay | connect | tick | refused | unclaimed | sent | generated =>
    exact .inl ⟨by simp,jobless⟩

theorem Announced.append (first second : List Effect) (left : Announced first)
    (right : Announced second) : Announced (first ++ second) := by
  induction left with
  | nil => exact right
  | other effect rest apart _ ih => exact .other effect _ apart ih
  | pair job rest _ ih => exact .pair job _ ih

theorem Announced.of_plain (effects : List Effect) (apart : effects.all plain = true) :
    Announced effects := by
  induction effects with
  | nil => exact .nil
  | cons effect rest ih =>
    rw [List.all_cons,Bool.and_eq_true] at apart
    exact .other effect rest apart.1 (ih apart.2)

/-- An operation announces nothing, or it hands out the one job that it has built. -/
theorem Transition.announcement (moved : client.Transition now input next effects answer) :
    effects.all plain = true ∨
      ∃ t job, (client.jobs.builder.build t).1 = .ok job.candidate ∧
        effects = client.greeting ++ [.reward job.candidate.reward, .job job] := by
  cases moved with
  | published id result t height previousHash candidate dice busy awaited usable accepted =>
    exact .inr ⟨t,_,client.jobs.accept_built _ t _ accepted rfl,rfl⟩
  | kept => exact .inl (plain_greeting client)
  | undelivered => exact .inl (by rw [List.all_append,plain_verdict]; rfl)
  | resolved => exact .inl (by rw [List.all_append,plain_verdict]; rfl)
  | resolvedMeanwhile => exact .inl (plain_verdict ..)
  | above => exact .inl (by split <;> rfl)
  | reconfigured => exact .inl (by split <;> rfl)
  | stay | connect | disconnect | tick | refused | unclaimed | sent | generated => exact .inl rfl

theorem Transition.announced (moved : client.Transition now input next effects answer) :
    Announced effects := by
  rcases moved.announcement with apart | ⟨t,job,_,rfl⟩
  · exact .of_plain effects apart
  · have greeted := Announced.of_plain client.greeting (plain_greeting client)
    exact greeted.append _ _ (.pair job [] .nil)

theorem Transition.rewarded (moved : client.Transition now input next effects answer) (job : Job)
    (handed : .job job ∈ effects) :
    job.candidate.reward =
      ⟨client.jobs.builder.payee.coin, job.candidate.coinbase.minerReward⟩ := by
  -- Plain effects hand out no job.
  have apart (effects : List Effect) (plains : effects.all plain = true) : .job job ∉ effects :=
    fun member => absurd (List.all_eq_true.mp plains _ member) nofun
  rcases moved.announcement with plains | ⟨t,made,built,rfl⟩
  · exact absurd handed (apart effects plains)
  · have same : job = made := by
      simpa [apart client.greeting (plain_greeting client)] using handed
    rw [same]
    exact client.jobs.builder.build_reward t made.candidate built

theorem Run.followed (before : List Entry) (opening : Entry) (since : List Entry)
    (run : Run (before ++ opening :: since) client) (opens : opening.Opens)
    (lasting : ∀ later ∈ since, ¬ later.Resets)
    (few : closings (happened (opening :: since)) < 2 ^ 32) :
    Standing.LeadsTo (.down 0) (happened (opening :: since)) client := by
  revert lasting few
  apply run.since (fun between middle => (∀ later ∈ between, ¬ later.Resets) →
    closings (happened (opening :: between)) < 2 ^ 32 →
    Standing.LeadsTo (.down 0) (happened (opening :: between)) middle)
  · intro _ _
    have moved := (run.met before opening since client).transition opening
    obtain ⟨asked,idle⟩ := opens
    simp only [happened,List.flatMap_cons,List.flatMap_nil,List.append_nil]
    rw [asked] at moved
    generalize opening.next = next at moved ⊢
    generalize opening.effects = effects at moved ⊢
    generalize opening.answer = answer at moved
    cases moved with
    | stay _ _ stays => exact absurd idle stays.2
    | connect => exact ⟨.down 0,rfl,⟨rfl,rfl⟩,Nat.zero_le _⟩
  · intro between later reached earlier lasting few
    rw [← List.cons_append,happened_append,closings_append] at few
    obtain ⟨standing,heard,suits,told⟩ :=
      earlier (fun entry member => lasting entry (List.mem_append_left _ member)) (by omega)
    have start : Standing.failures (.down 0) = 0 := rfl
    rw [start] at told
    obtain ⟨goes,follows,fits,count⟩ := (reached.transition later).followed reached.coherent
      (lasting later (by simp)) standing suits (by omega)
    refine ⟨goes,?_,fits,?_⟩
    · rw [← List.cons_append,happened_append,signals_append,Standing.follow_append,heard]
      exact follows
    · rw [← List.cons_append,happened_append,closings_append,start]
      omega

theorem Greeted.append (first second : List Effect) (greeted : Greeted first) :
    Greeted (first ++ second) := by
  obtain ⟨before,period,job,rest,unheard,rfl⟩ := greeted
  exact ⟨before,period,job,rest ++ second,unheard,by simp⟩

/-- Either there has been no login and there is no job, or the first login came with one. -/
theorem Run.greeted (before : List Entry) (opening : Entry) (since : List Entry)
    (run : Run (before ++ opening :: since) client) (opens : opening.Opens) :
    (.login ∉ happened (opening :: since) ∧ client.jobs.current = none) ∨
      Greeted (happened (opening :: since)) := by
  apply run.since (fun between middle => (.login ∉ happened (opening :: between) ∧
    middle.jobs.current = none) ∨ Greeted (happened (opening :: between)))
  · have met := run.met before opening since client
    have jobless := met.coherent.jobless opens.2
    simp only [happened,List.flatMap_cons,List.flatMap_nil,List.append_nil]
    rcases (met.transition opening).greeted met.coherent jobless with still | ⟨period,job,login⟩
    · exact .inl still
    · exact .inr ⟨[],period,job,[],by simp,login⟩
  · intro between later reached earlier
    rw [← List.cons_append,happened_append]
    rcases earlier with ⟨unheard,jobless⟩ | greeted
    · rcases (reached.transition later).greeted reached.coherent jobless with
        ⟨still,none⟩ | ⟨period,job,login⟩
      · exact .inl ⟨by simp [unheard,still],none⟩
      · exact .inr ⟨_,period,job,[],unheard,by rw [login,List.append_nil]⟩
    · exact .inr (greeted.append _ later.effects)

theorem Run.announced (history : List Entry) (run : Run history client) :
    Announced (happened history) := by
  induction run with
  | create => exact .nil
  | step history entry earlier ih =>
    rw [happened_append]
    exact ih.append _ _ (earlier.transition entry).announced

/-- What the backends hear of a session follows the protocol and tells where the client is; every
job comes with the record of its own reward. -/
theorem listener_protocol (history : List Entry) (client : Client) (run : Run history client) :
    Protocol history client where
  followed := by
    rintro before opening since rfl opens lasting few
    obtain ⟨standing,heard,suits,_⟩ := run.followed before opening since opens lasting few
    refine ⟨standing,heard,?_,?_⟩
    all_goals cases standing with
    | down failures => simp [suits.1,suits.2,eq_comm]
    | up => simp [show client.state = .connected from suits]
  silent := by
    intro entry member quiet
    obtain ⟨before,after,rfl⟩ := List.append_of_mem member
    exact ((run.met before entry after client).transition entry).silent quiet
  greeted := by
    rintro before opening since rfl opens _ login
    rcases run.greeted before opening since opens with ⟨unheard,_⟩ | greeted
    · exact absurd login unheard
    · exact greeted
  announced := run.announced
  rewarded := by
    intro entry member job handed
    obtain ⟨before,after,rfl⟩ := List.append_of_mem member
    exact ((run.met before entry after client).transition entry).rewarded job handed

/-- The way to the node fails twice, and the job is still good at the second login. -/
theorem listener_protocol_relogin : ∃ before opening since client,
    Run (before ++ opening :: since) client ∧ opening.Opens ∧ (∀ later ∈ since, ¬ later.Resets) ∧
      closings (happened (opening :: since)) < 2 ^ 32 ∧ client.state = .connected ∧
      signals (happened (opening :: since)) = [.login, .job, .close 1, .close 2, .login] ∧
      Standing.follow (.down 0) (signals (happened (opening :: since))) = some .up ∧
      Greeted (happened (opening :: since)) := by
  obtain ⟨answer,read⟩ : ∃ answer, templateOf answer = .ok Sample.first := ⟨_,Sample.first_read⟩
  have run := (Sample.opening_run read).replay Sample.working
    [(15002, .tick), (15003, .complete 2 Sample.lost), (20003, .tick),
      (20004, .complete 3 Sample.lost), (25004, .tick),
      (25005, .complete 4 (Sample.renewal Sample.firstBlock))]
  generalize replayed : Sample.working.replay
    [(15002, .tick), (15003, .complete 2 Sample.lost), (20003, .tick),
      (20004, .complete 3 Sample.lost), (25004, .tick),
      (25005, .complete 4 (Sample.renewal Sample.firstBlock))] = rest at run
  obtain ⟨lasting,connected,heard⟩ : (∀ later ∈ rest.1, ¬ later.Resets) ∧
      rest.2.state = .connected ∧ signals (happened rest.1) = [.close 1, .close 2, .login] := by
    rw [← replayed]
    decide +kernel
  let opening : Entry := ⟨Sample.idle,0,.connect⟩
  let since : List Entry := ⟨Sample.connecting,1,.complete 1 answer⟩ :: rest.1
  have opens : opening.Opens := ⟨rfl,rfl⟩
  have lasting : ∀ later ∈ since, ¬ later.Resets := by
    refine List.forall_mem_cons.mpr ⟨?_,lasting⟩
    simp [Entry.Resets,Drops]
  have first : signals (happened (Sample.opening answer)) = [.login, .job] := by
    rw [happened,List.flatMap_def,Sample.opening_effects read]
    rfl
  have whole : happened (Sample.opening answer ++ rest.1) =
      happened (Sample.opening answer) ++ happened rest.1 := List.flatMap_append
  have heard : signals (happened (opening :: since)) =
      [.login, .job, .close 1, .close 2, .login] := by
    change signals (happened (Sample.opening answer ++ rest.1)) = _
    rw [whole,signals_append,first,heard]
    rfl
  have few : closings (happened (opening :: since)) < 2 ^ 32 := by
    rw [closings,heard]
    decide
  have follows := listener_protocol (opening :: since) rest.2 run
  obtain ⟨standing,accepted,up,_⟩ := follows.followed [] opening since rfl opens lasting few
  rw [up.mpr connected] at accepted
  refine ⟨[],opening,since,rest.2,run,opens,lasting,few,connected,heard,accepted,?_⟩
  apply follows.greeted [] opening since rfl opens lasting
  have signalled : Signal.login ∈ signals (happened (opening :: since)) := by
    rw [heard]
    exact .head _
  exact login_of_signalled _ signalled

end Client

end SoloMining
