import SoloMining.EventLoop
import SoloMining.Proofs.Client.Run

/-! The loop beside the tasks of its timer. Clock, tasks, callers and loop take turns in any order:
a tick may wait in the queue while the timer is set anew or stopped, and a task that was told to end
may still send one. As long as 64 bits count the calls of the timer, only the task of the latest one
wakes the client. -/
namespace SoloMining

/-- A start of the timer, as its task knows it: the number of the call, and the generation that all
its ticks carry. -/
structure Start where
  call : Nat
  generation : UInt64
  time : Nat
  delay : Nat
  repeats : Bool
deriving DecidableEq

namespace Start

def allowance (start : Start) (now : Nat) : Nat :=
  if start.repeats then (now - start.time) / start.delay else 1

structure Past (start : Start) (calls : Nat) : Prop where
  earlier : start.call < calls
  numbered : start.generation = .ofNat start.call

inductive Scheduled (start : Start) : (sent : Nat) → Option Alarm → Prop
  | single (once : start.repeats = false) (due : Nat) : start.Scheduled 0 (some ⟨due, none⟩)
  | rung (once : start.repeats = false) : start.Scheduled 1 none
  | never (many : start.repeats = true) : start.Scheduled 0 none
  | again (many : start.repeats = true) (lasting : 0 < start.delay) (sent due : Nat)
      (later : start.time + (sent + 1) * start.delay ≤ due) :
      start.Scheduled sent (some ⟨due, some start.delay⟩)

variable {start : Start} {sent now : Nat} {alarm : Option Alarm}

theorem Past.later {calls : Nat} (past : start.Past calls) : start.Past (calls + 1) :=
  ⟨Nat.lt_succ_of_lt past.earlier,past.numbered⟩

/-- The generation of an earlier call does not come back among fewer than 2^64 calls. -/
theorem Past.outdated {calls : Nat} (past : start.Past calls) (few : calls < 2 ^ 64) :
    start.generation ≠ .ofNat calls := by
  intro same
  have numbers := congrArg UInt64.toNat (past.numbered.symm.trans same)
  rw [UInt64.toNat_ofNat_of_lt' (Nat.lt_trans past.earlier few),
    UInt64.toNat_ofNat_of_lt' few] at numbers
  exact Nat.ne_of_lt past.earlier numbers

theorem allowance_mono (start : Start) (now later : Nat) (le : now ≤ later) :
    start.allowance now ≤ start.allowance later := by
  unfold allowance
  split
  · have elapsed : now - start.time ≤ later - start.time := Nat.sub_le_sub_right le start.time
    exact Nat.div_le_div_right elapsed
  · exact le_rfl

theorem Scheduled.initial (start : Start) :
    start.Scheduled 0 (Timer.alarmAt start.time start.delay start.repeats) := by
  unfold Timer.alarmAt
  cases kind : start.repeats with
  | false => exact .single kind _
  | true =>
    by_cases instant : start.delay = 0
    · simpa [instant] using Scheduled.never kind
    · have lasting : 0 < start.delay := Nat.pos_of_ne_zero instant
      simpa [instant] using Scheduled.again kind lasting 0 _ (by omega)

theorem Scheduled.putOff (scheduled : start.Scheduled sent alarm) (duration : Nat) :
    start.Scheduled sent (alarm.map fun alarm => { alarm with due := alarm.due + duration }) := by
  cases scheduled with
  | single once due => exact .single once _
  | rung once => exact .rung once
  | never many => exact .never many
  | again many lasting sent due later =>
    exact .again many lasting sent _ (Nat.le_add_right_of_le later)

/-- A tick that is due is allowed for, and the alarm is set for the next one. -/
theorem Scheduled.ring {alarm : Alarm} (scheduled : start.Scheduled sent (some alarm))
    (due : alarm.due ≤ now) :
    start.Scheduled (sent + 1) (Timer.rearm alarm now) ∧ sent + 1 ≤ start.allowance now := by
  cases scheduled with
  | single once time => exact ⟨.rung once,by simp [allowance,once]⟩
  | again many lasting sent time later =>
    constructor
    · refine .again many lasting (sent + 1) _ ?_
      have next : start.time + (sent + 1 + 1) * start.delay =
          start.time + (sent + 1) * start.delay + start.delay := by
        rw [Nat.succ_mul,Nat.add_assoc]
      simp only at due ⊢
      split <;> omega
    · have elapsed : (sent + 1) * start.delay ≤ now - start.time := by
        simp only at due
        omega
      simpa [allowance,many] using (Nat.le_div_iff_mul_le lasting).mpr elapsed

end Start

theorem Timer.takeTick_eq_some {timer next : Timer} {now : Nat} {generation : UInt64}
    (taken : timer.takeTick now = some (generation,next)) :
    ∃ alarm, timer.alarm = some alarm ∧ alarm.due ≤ now ∧
      next = ⟨timer.generation,rearm alarm now⟩ := by
  unfold takeTick at taken
  split at taken
  next alarm set =>
    split at taken
    next due =>
      cases taken
      exact ⟨alarm,set,due,rfl⟩
    · cases taken
  · cases taken

/-- A timer and its tasks: the one that runs, if the last call was a start, and those that were told
to end. -/
structure Tasks where
  timer : Timer
  calls : Nat
  running : Option Start
  aborted : List Start

namespace Tasks

def idle : Tasks := ⟨.idle, 0, none, []⟩

def start (tasks : Tasks) (now delay : Nat) (repeats : Bool) : Tasks :=
  let timer := tasks.timer.start now delay repeats
  ⟨timer, tasks.calls + 1, some ⟨tasks.calls + 1, timer.generation, now, delay, repeats⟩,
   tasks.running.toList ++ tasks.aborted⟩

def stop (tasks : Tasks) : Tasks :=
  ⟨tasks.timer.stop, tasks.calls + 1, none, tasks.running.toList ++ tasks.aborted⟩

def follow (now : Nat) (tasks : Tasks) : Effect → Tasks
  | .startTimer delay repeats => tasks.start now delay repeats
  | .stopTimer => tasks.stop
  | _ => tasks

/-- A task runs when it is its turn, so its alarm may be later than it was set for. -/
def putOff (tasks : Tasks) (duration : Nat) : Tasks :=
  { tasks with timer.alarm := tasks.timer.alarm.map fun alarm =>
      { alarm with due := alarm.due + duration } }

def InForce (tasks : Tasks) (start : Start) : Prop :=
  tasks.running = some start ∧ start.call = tasks.calls

instance decidableInForce (tasks : Tasks) (start : Start) : Decidable (tasks.InForce start) :=
  inferInstanceAs (Decidable (_ ∧ _))

theorem follow_timer (now : Nat) (tasks : Tasks) (effects : List Effect) :
    (effects.foldl (follow now) tasks).timer =
      effects.foldl (EventLoop.applyEffect now) tasks.timer := by
  induction effects generalizing tasks with
  | nil => rfl
  | cons effect rest ih =>
    have same : (tasks.follow now effect).timer = EventLoop.applyEffect now tasks.timer effect := by
      cases effect <;> rfl
    rw [List.foldl_cons,List.foldl_cons,ih,same]

theorem follow_calls (now : Nat) (tasks : Tasks) (effects : List Effect) :
    tasks.calls ≤ (effects.foldl (follow now) tasks).calls := by
  induction effects generalizing tasks with
  | nil => exact le_rfl
  | cons effect rest ih =>
    have first : tasks.calls ≤ (tasks.follow now effect).calls := by
      cases effect with
      | startTimer | stopTimer => exact Nat.le_succ _
      | fetch | reward | job | login | close | result => exact le_rfl
    exact first.trans (ih _)

/-- What a timer makes of its tasks: a tick on its way was sent by the task that runs, or carries a
generation that is over. -/
structure Sound (tasks : Tasks) (now : Nat) (queued woken : List Start) : Prop where
  counted : tasks.timer.generation = .ofNat tasks.calls
  current : ∀ start, tasks.running = some start →
    start.call = tasks.calls ∧ start.generation = .ofNat tasks.calls
  scheduled : ∀ start, tasks.running = some start →
    start.Scheduled ((queued ++ woken).count start) tasks.timer.alarm
  aborted : ∀ start ∈ tasks.aborted, start.Past tasks.calls
  outdated : ∀ start ∈ queued ++ woken, tasks.running = some start ∨ start.Past tasks.calls
  allowed : ∀ start, tasks.running = some start →
    (queued ++ woken).count start ≤ start.allowance now
  spent : ∀ start, woken.count start ≤ start.allowance now

variable {tasks : Tasks} {now : Nat} {queued woken : List Start} {start : Start}

theorem idle_sound (now : Nat) : idle.Sound now [] [] where
  counted := rfl
  current := by simp [idle]
  scheduled := by simp [idle]
  aborted := by simp [idle]
  outdated := by simp
  allowed := by simp [idle]
  spent := by simp

theorem Sound.waited (sound : tasks.Sound now queued woken) (duration : Nat) :
    tasks.Sound (now + duration) queued woken where
  __ := sound
  allowed start running := (sound.allowed start running).trans
    (start.allowance_mono _ _ (Nat.le_add_right _ _))
  spent start := (sound.spent start).trans (start.allowance_mono _ _ (Nat.le_add_right _ _))

theorem Sound.lagged (sound : tasks.Sound now queued woken) (duration : Nat) :
    (tasks.putOff duration).Sound now queued woken where
  __ := sound
  scheduled start running := (sound.scheduled start running).putOff duration

/-- The next call of the timer begins a generation of its own, so by then the running task is of an
earlier one, as are the tasks that have ended. -/
theorem Sound.running_past (sound : tasks.Sound now queued woken) (start : Start)
    (running : tasks.running = some start) : start.Past (tasks.calls + 1) := by
  obtain ⟨call,generation⟩ := sound.current start running
  exact ⟨call ▸ Nat.lt_succ_self _,call.symm ▸ generation⟩

theorem Sound.ended_past (sound : tasks.Sound now queued woken) (start : Start)
    (ended : start ∈ tasks.running.toList ++ tasks.aborted) : start.Past (tasks.calls + 1) := by
  obtain running | aborted := List.mem_append.mp ended
  · exact sound.running_past start (Option.mem_toList.mp running)
  · exact (sound.aborted start aborted).later

theorem Sound.sent_past (sound : tasks.Sound now queued woken) (start : Start)
    (sent : start ∈ queued ++ woken) : start.Past (tasks.calls + 1) := by
  obtain running | past := sound.outdated start sent
  · exact sound.running_past start running
  · exact past.later

theorem Sound.counted_next (sound : tasks.Sound now queued woken) :
    tasks.timer.generation + 1 = .ofNat (tasks.calls + 1) := by
  rw [sound.counted,UInt64.ofNat_add]
  rfl

theorem Sound.stopped (sound : tasks.Sound now queued woken) :
    tasks.stop.Sound now queued woken where
  counted := sound.counted_next
  current := by simp [stop]
  scheduled := by simp [stop]
  aborted := sound.ended_past
  outdated start sent := .inr (sound.sent_past start sent)
  allowed := by simp [stop]
  spent := sound.spent

theorem Sound.started (sound : tasks.Sound now queued woken) (delay : Nat) (repeats : Bool) :
    (tasks.start now delay repeats).Sound now queued woken := by
  let fresh : Start := ⟨tasks.calls + 1,.ofNat (tasks.calls + 1),now,delay,repeats⟩
  have made : (tasks.start now delay repeats).running = some fresh := by
    simp only [Tasks.start,Timer.start,sound.counted_next,fresh]
  have unsent : (queued ++ woken).count fresh = 0 := by
    apply List.count_eq_zero.mpr
    intro sent
    exact Nat.lt_irrefl _ (sound.sent_past fresh sent).earlier
  refine ⟨sound.counted_next,?current,?scheduled,?aborted,?outdated,?allowed,
    sound.spent⟩
  case current =>
    intro start running
    cases made.symm.trans running
    exact ⟨rfl,rfl⟩
  case scheduled =>
    intro start running
    cases made.symm.trans running
    rw [unsent]
    exact Start.Scheduled.initial fresh
  case aborted => exact sound.ended_past
  case outdated => exact fun start sent => .inr (sound.sent_past start sent)
  case allowed =>
    intro start running
    cases made.symm.trans running
    rw [unsent]
    exact Nat.zero_le _

theorem Sound.followed (sound : tasks.Sound now queued woken) (effects : List Effect) :
    (effects.foldl (follow now) tasks).Sound now queued woken := by
  induction effects generalizing tasks with
  | nil => exact sound
  | cons effect rest ih =>
    have first : (tasks.follow now effect).Sound now queued woken := by
      cases effect with
      | startTimer delay repeats => exact sound.started delay repeats
      | stopTimer => exact sound.stopped
      | fetch | reward | job | login | close | result => exact sound
    exact ih first

/-- Ticks may come and go as long as those of the running task stay. -/
theorem Sound.resent (sound : tasks.Sound now queued woken) (later reached : List Start)
    (kept : ∀ start, tasks.running = some start →
      (later ++ reached).count start = (queued ++ woken).count start)
    (known : ∀ start ∈ later ++ reached, start ∈ queued ++ woken ∨ start.Past tasks.calls)
    (spent : ∀ start, reached.count start ≤ start.allowance now) :
    tasks.Sound now later reached := by
  refine ⟨sound.counted,sound.current,?scheduled,sound.aborted,?outdated,?allowed,spent⟩
  case scheduled =>
    intro start running
    rw [kept start running]
    exact sound.scheduled start running
  case outdated =>
    intro start sent
    obtain before | old := known start sent
    · exact sound.outdated start before
    · exact .inr old
  case allowed =>
    intro start running
    rw [kept start running]
    exact sound.allowed start running

theorem mem_sent (start other : Start) :
    other ∈ queued ++ [start] ++ woken ↔ other = start ∨ other ∈ queued ++ woken := by
  rw [List.append_assoc,List.singleton_append,List.mem_append,List.mem_cons,or_left_comm,
    List.mem_append]

theorem Sound.strayed (sound : tasks.Sound now queued woken) (start : Start)
    (ended : start ∈ tasks.aborted) : tasks.Sound now (queued ++ [start]) woken := by
  have old := sound.aborted start ended
  refine sound.resent _ _ ?kept ?known sound.spent
  case kept =>
    intro other running
    have differs : start ≠ other := by
      rintro rfl
      exact Nat.ne_of_lt old.earlier (sound.current start running).1
    simp [List.count_append,differs]
  case known =>
    intro other sent
    obtain rfl | sent := (mem_sent start other).mp sent
    · exact .inr old
    · exact .inl sent

theorem Sound.rung (sound : tasks.Sound now queued woken) (start : Start) (generation : UInt64)
    (timer : Timer) (running : tasks.running = some start)
    (taken : tasks.timer.takeTick now = some (generation,timer)) :
    { tasks with timer }.Sound now (queued ++ [start]) woken := by
  obtain ⟨alarm,set,due,rfl⟩ := Timer.takeTick_eq_some taken
  have scheduled := sound.scheduled start running
  rw [set] at scheduled
  obtain ⟨next,paid⟩ := scheduled.ring due
  have once : (queued ++ [start] ++ woken).count start = (queued ++ woken).count start + 1 := by
    simp only [List.count_append,List.count_singleton_self]
    omega
  refine ⟨sound.counted,sound.current,?scheduled,sound.aborted,?outdated,?allowed,sound.spent⟩
  case scheduled =>
    intro other ran
    cases running.symm.trans ran
    rw [once]
    exact next
  case outdated =>
    intro other sent
    obtain rfl | sent := (mem_sent start other).mp sent
    · exact .inl running
    · exact sound.outdated other sent
  case allowed =>
    intro other ran
    cases running.symm.trans ran
    rw [once]
    exact paid

theorem Sound.live (sound : tasks.Sound now queued woken) (inForce : tasks.InForce start) :
    start.generation = tasks.timer.generation := by
  rw [sound.counted,(sound.current start inForce.1).2]

theorem Sound.live_iff (sound : tasks.Sound now (start :: queued) woken)
    (few : tasks.calls < 2 ^ 64) :
    start.generation = tasks.timer.generation ↔ tasks.InForce start := by
  refine ⟨?_,sound.live⟩
  intro same
  obtain running | past := sound.outdated start (List.mem_cons_self ..)
  · exact ⟨running,(sound.current start running).1⟩
  · exact absurd (same.trans sound.counted) (past.outdated few)

/-- The tick of the running task wakes the client. -/
theorem Sound.woke (sound : tasks.Sound now (start :: queued) woken)
    (live : tasks.InForce start) : tasks.Sound now queued (start :: woken) := by
  have moved : (queued ++ start :: woken).Perm (start :: queued ++ woken) := List.perm_middle
  refine sound.resent _ _ (fun other _ => moved.count_eq other)
    (fun other sent => .inl (moved.mem_iff.mp sent)) ?spent
  intro other
  by_cases same : start = other
  · subst same
    have paid := sound.allowed start live.1
    rw [List.cons_append,List.count_cons_self,List.count_append] at paid
    rw [List.count_cons_self]
    omega
  · rw [List.count_cons_of_ne same]
    exact sound.spent other

theorem Sound.dropped (sound : tasks.Sound now (start :: queued) woken)
    (dead : ¬ tasks.InForce start) : tasks.Sound now queued woken := by
  refine sound.resent _ _ ?kept (fun other sent => .inl (List.mem_cons_of_mem _ sent)) sound.spent
  intro other running
  symm
  apply List.count_cons_of_ne
  rintro rfl
  exact dead ⟨running,(sound.current start running).1⟩

end Tasks

/-- Only what the client asks for sets or stops the timer. -/
theorem EventLoop.dispatch_timer (eventLoop : EventLoop) (now : Nat) (event : Event) :
    (eventLoop.dispatch now event).1.timer =
      (eventLoop.dispatch now event).2.1.foldl (applyEffect now) eventLoop.timer := by
  unfold dispatch
  split
  · rfl
  · split
    next asked =>
      simp only [run,Prod.mk.injEq] at asked
      obtain ⟨rfl,rfl,_⟩ := asked
      simp only [run,List.foldl_append]
    · rfl

inductive Post
  | tick (start : Start)
  | other (event : Event) (foreign : ∀ generation, event ≠ .tick generation)

namespace Post

def event : Post → Event
  | .tick start => .tick start.generation
  | .other event _ => event

def origin : Post → Option Start
  | .tick start => some start
  | .other _ _ => none

theorem origin_eq_some (post : Post) (start : Start) :
    post.origin = some start ↔ post = .tick start := by
  cases post <;> simp [origin]

end Post

structure Runtime where
  now : Nat
  client : Client
  tasks : Tasks
  queue : List Post
  /-- The start of every tick that reached the client. -/
  woken : List Start

namespace Runtime

inductive Move
  | wait (duration : Nat)
  | start (delay : Nat) (repeats : Bool)
  | stop
  | putOff (duration : Nat)
  | ring
  | stray (start : Start)
  | send (event : Event) (foreign : ∀ generation, event ≠ .tick generation)
  | dispatch

def create (client : Client) : Runtime :=
  ⟨0, client, .idle, [.other .connect (by simp)], []⟩

def eventLoop (runtime : Runtime) : EventLoop := ⟨runtime.client, runtime.tasks.timer⟩

def ring (runtime : Runtime) : Option Runtime :=
  match runtime.tasks.running, runtime.tasks.timer.takeTick runtime.now with
  | some start, some (_, timer) =>
    some { runtime with tasks.timer := timer, queue := runtime.queue ++ [.tick start] }
  | _, _ => none

def wakes (runtime : Runtime) (post : Post) : List Start :=
  if (runtime.eventLoop.asked post.event).isSome then post.origin.toList else []

def dispatch (runtime : Runtime) : Option Runtime :=
  match runtime.queue with
  | [] => none
  | post :: rest =>
    let (eventLoop, effects, _) := runtime.eventLoop.dispatch runtime.now post.event
    some { runtime with
      client := eventLoop.client
      tasks := effects.foldl (Tasks.follow runtime.now) runtime.tasks
      queue := rest
      woken := runtime.wakes post ++ runtime.woken }

def move (runtime : Runtime) : Move → Option Runtime
  | .wait duration => some { runtime with now := runtime.now + duration }
  | .start delay repeats =>
    some { runtime with tasks := runtime.tasks.start runtime.now delay repeats }
  | .stop => some { runtime with tasks := runtime.tasks.stop }
  | .putOff duration => some { runtime with tasks := runtime.tasks.putOff duration }
  | .ring => runtime.ring
  | .stray start =>
    if start ∈ runtime.tasks.aborted then
      some { runtime with queue := runtime.queue ++ [.tick start] }
    else none
  | .send event foreign =>
    some { runtime with queue := runtime.queue ++ [.other event foreign] }
  | .dispatch => runtime.dispatch

def play (runtime : Runtime) (moves : List Move) : Option Runtime :=
  moves.foldlM move runtime

/-- The timer of the tasks is the one that the loop goes on with. -/
theorem dispatch_eventLoop (runtime next : Runtime) (post : Post) (rest : List Post)
    (waiting : runtime.queue = post :: rest) (taken : runtime.dispatch = some next) :
    next.eventLoop = (runtime.eventLoop.dispatch runtime.now post.event).1 := by
  simp only [dispatch,waiting,Option.some.injEq] at taken
  have same := EventLoop.dispatch_timer runtime.eventLoop runtime.now post.event
  rw [← taken]
  simp only [eventLoop,Tasks.follow_timer] at same ⊢
  rw [← same]

def queued (runtime : Runtime) : List Start := runtime.queue.filterMap Post.origin

def Sound (runtime : Runtime) : Prop :=
  runtime.tasks.Sound runtime.now runtime.queued runtime.woken

variable {runtime next : Runtime}

theorem Sound.first (sound : runtime.Sound) (post : Post) (rest : List Post)
    (waiting : runtime.queue = post :: rest) :
    runtime.tasks.Sound runtime.now (post.origin.toList ++ rest.filterMap Post.origin)
      runtime.woken := by
  have split : runtime.queued = post.origin.toList ++ rest.filterMap Post.origin := by
    rw [queued,waiting]
    cases post <;> rfl
  rw [← split]
  exact sound

theorem sound_send (runtime : Runtime) (post : Post) :
    { runtime with queue := runtime.queue ++ [post] }.Sound ↔
      runtime.tasks.Sound runtime.now (runtime.queued ++ post.origin.toList) runtime.woken := by
  rw [Sound,queued,List.filterMap_append]
  cases post <;> rfl

theorem asked_live (sound : runtime.Sound) (start : Start)
    (live : runtime.tasks.InForce start) :
    runtime.eventLoop.asked (.tick start.generation) = some .tick :=
  if_pos (Tasks.Sound.live sound live)

theorem asked_dead (sound : runtime.Sound) (start : Start) (rest : List Post)
    (waiting : runtime.queue = .tick start :: rest) (few : runtime.tasks.calls < 2 ^ 64)
    (dead : ¬ runtime.tasks.InForce start) :
    runtime.eventLoop.asked (.tick start.generation) = none :=
  if_neg fun same => dead (((sound.first _ rest waiting).live_iff few).mp same)

theorem dispatch_sound (sound : runtime.Sound) (few : runtime.tasks.calls < 2 ^ 64)
    (taken : runtime.dispatch = some next) : next.Sound := by
  cases waiting : runtime.queue with
  | nil => simp [dispatch,waiting] at taken
  | cons post rest =>
    have first : runtime.tasks.Sound runtime.now (rest.filterMap Post.origin)
        (runtime.wakes post ++ runtime.woken) := by
      have pending := sound.first post rest waiting
      cases post with
      | other event foreign => simpa [wakes,Post.origin] using pending
      | tick start =>
        by_cases live : runtime.tasks.InForce start
        · have asked := asked_live sound start live
          simpa [wakes,Post.event,Post.origin,asked] using pending.woke live
        · have asked := asked_dead sound start rest waiting few live
          simpa [wakes,Post.event,asked] using pending.dropped live
    simp only [dispatch,waiting,Option.some.injEq] at taken
    rw [← taken]
    exact first.followed _

theorem move_sound (sound : runtime.Sound) (few : runtime.tasks.calls < 2 ^ 64) (move : Move)
    (moved : runtime.move move = some next) : next.Sound := by
  cases move with
  | wait duration =>
    cases moved
    exact sound.waited duration
  | start delay repeats =>
    cases moved
    exact sound.started delay repeats
  | stop =>
    cases moved
    exact sound.stopped
  | putOff duration =>
    cases moved
    exact sound.lagged duration
  | ring =>
    simp only [Runtime.move,ring] at moved
    split at moved
    next start generation timer running taken =>
      cases moved
      apply (sound_send { runtime with tasks.timer := timer } _).mpr
      exact sound.rung start generation timer running taken
    · cases moved
  | stray start =>
    simp only [Runtime.move] at moved
    split at moved
    next ended =>
      cases moved
      exact (sound_send runtime _).mpr (sound.strayed start ended)
    · cases moved
  | send event foreign =>
    cases moved
    rw [sound_send,Post.origin,Option.toList_none,List.append_nil]
    exact sound
  | dispatch => exact dispatch_sound sound few moved

theorem move_calls (move : Move) (moved : runtime.move move = some next) :
    runtime.tasks.calls ≤ next.tasks.calls := by
  cases move with
  | start | stop =>
    cases moved
    exact Nat.le_succ _
  | ring =>
    simp only [Runtime.move,ring] at moved
    split at moved <;> cases moved
    exact le_rfl
  | stray =>
    simp only [Runtime.move] at moved
    split at moved <;> cases moved
    exact le_rfl
  | dispatch =>
    cases waiting : runtime.queue with
    | nil => simp [Runtime.move,dispatch,waiting] at moved
    | cons post rest =>
      simp only [Runtime.move,dispatch,waiting,Option.some.injEq] at moved
      rw [← moved]
      exact Tasks.follow_calls _ _ _
  | wait | putOff | send =>
    cases moved
    exact le_rfl

theorem play_calls (moves : List Move) (played : runtime.play moves = some next) :
    runtime.tasks.calls ≤ next.tasks.calls := by
  induction moves generalizing runtime with
  | nil =>
    cases played
    exact le_rfl
  | cons first rest ih =>
    obtain ⟨between,moved,played⟩ := Option.bind_eq_some_iff.mp played
    exact (move_calls first moved).trans (ih played)

theorem play_sound (sound : runtime.Sound) (moves : List Move)
    (played : runtime.play moves = some next) (few : next.tasks.calls < 2 ^ 64) :
    next.Sound := by
  induction moves generalizing runtime with
  | nil =>
    cases played
    exact sound
  | cons first rest ih =>
    obtain ⟨between,moved,rests⟩ := Option.bind_eq_some_iff.mp played
    have fewer := Nat.lt_of_le_of_lt (play_calls _ played) few
    exact ih (move_sound sound fewer first moved) rests

theorem create_sound (client : Client) : (create client).Sound := Tasks.idle_sound 0

/-- Whatever the turns that clock, tasks, callers and loop take, with fewer than 2^64 calls of the
timer among them: a tick that the loop comes to wakes the client just if its task runs and the timer
was not called since, and changes nothing otherwise; a single start wakes the client once at most, a
repeating one not more often than its delay has passed since. -/
theorem stopped_timers_silent (client : Client) (moves : List Move) (runtime : Runtime)
    (played : (create client).play moves = some runtime)
    (few : runtime.tasks.calls < 2 ^ 64) :
    (∀ start rest, runtime.queue = .tick start :: rest →
      (runtime.eventLoop.asked (.tick start.generation) = some .tick ↔
        runtime.tasks.InForce start) ∧
      (¬ runtime.tasks.InForce start →
        runtime.eventLoop.dispatch runtime.now (.tick start.generation) =
          (runtime.eventLoop,[],.none))) ∧
    (∀ start : Start, start.repeats = false → runtime.woken.count start ≤ 1) ∧
    ∀ start : Start, start.repeats = true →
      runtime.woken.count start ≤ (runtime.now - start.time) / start.delay := by
  have sound := play_sound (create_sound client) moves played few
  refine ⟨?_,?_,?_⟩
  · intro start rest waiting
    constructor
    · constructor
      · intro asked
        by_contra dead
        rw [asked_dead sound start rest waiting few dead] at asked
        cases asked
      · exact asked_live sound start
    · intro dead
      rw [EventLoop.dispatch,asked_dead sound start rest waiting few dead]
  · intro start single
    simpa [Start.allowance,single] using sound.spent start
  · intro start many
    simpa [Start.allowance,many] using sound.spent start

/-- What comes up in a play can be looked for by evaluation. -/
theorem exists_play (client : Client) (moves : List Move) (check : Runtime → Prop)
    [DecidablePred check]
    (found : (((create client).play moves).any fun runtime => check runtime) = true) :
    ∃ runtime, (create client).play moves = some runtime ∧ check runtime := by
  cases played : (create client).play moves with
  | none => simp [played] at found
  | some runtime =>
    rw [played,Option.any_some] at found
    exact ⟨runtime,rfl,of_decide_eq_true found⟩

/-- A failed request is made again after the pause, and the client logs in. It is told to disconnect
just before the second tick of its new timer, so that tick is dropped. -/
theorem stopped_timers_silent_disconnected : ∃ client moves runtime pause poll rest,
    (create client).play moves = some runtime ∧ runtime.tasks.calls < 2 ^ 64 ∧
    runtime.queue = .tick poll :: rest ∧ ¬ runtime.tasks.InForce poll ∧
    runtime.eventLoop.dispatch runtime.now (.tick poll.generation) =
      (runtime.eventLoop,[],.none) ∧
    runtime.woken = [poll,pause] ∧ pause.repeats = false ∧ runtime.woken.count pause ≤ 1 ∧
    poll.repeats = true ∧
    runtime.woken.count poll ≤ (runtime.now - poll.time) / poll.delay := by
  let pause : Start := ⟨1,1,0,5000,false⟩
  let poll : Start := ⟨2,2,5000,1000,true⟩
  obtain ⟨runtime,played,calls,queued,stopped,woken⟩ :=
    exists_play Client.Sample.idle
      [.dispatch,.send (.fetched 1 Client.Sample.lost) (by simp),.dispatch,
       .wait 5000,.ring,.dispatch,
       .send (.fetched 2 (Client.Sample.template Client.Sample.firstBlock)) (by simp),.dispatch,
       .wait 1000,.ring,.dispatch,
       .send .disconnect (by simp),.wait 1000,.ring,.dispatch]
      (fun runtime => runtime.tasks.calls = 3 ∧ runtime.queue.map Post.origin = [some poll] ∧
        ¬ runtime.tasks.InForce poll ∧ runtime.woken = [poll,pause]) (by decide +kernel)
  obtain ⟨post,waiting,origin⟩ := List.map_eq_singleton_iff.mp queued
  rw [(post.origin_eq_some poll).mp origin] at waiting
  have few : runtime.tasks.calls < 2 ^ 64 := by omega
  obtain ⟨heads,single,many⟩ := stopped_timers_silent _ _ runtime played few
  have dropped := (heads poll [] waiting).2 stopped
  exact ⟨_,_,runtime,pause,poll,[],played,few,waiting,stopped,dropped,woken,rfl,
    single pause rfl,rfl,many poll rfl⟩

end Runtime

end SoloMining
