import SoloMining.Proofs.Client.Transition

/-! The timer of a client. It is off at rest, polls while the client is connected, and is set to try
again once while the client is connecting, unless an answer is on its way. So a client that is at
work is always woken. -/
namespace SoloMining.Client

structure TimerStart where
  delay : Nat
  repeats : Bool
deriving DecidableEq

def setBy (timer : Option TimerStart) : Effect → Option TimerStart
  | .startTimer delay repeats => some ⟨delay, repeats⟩
  | .stopTimer => none
  | _ => timer

def rung (timer : Option TimerStart) : Input → Option TimerStart
  | .tick => timer.filter (·.repeats)
  | _ => timer

/-- The timer after an operation: the tick that caused it comes before its effects. -/
def rewound (timer : Option TimerStart) (input : Input) (effects : List Effect) :
    Option TimerStart :=
  effects.foldl setBy (rung timer input)

def armed (history : List Entry) : Option TimerStart :=
  history.foldl (fun timer entry => rewound timer entry.input entry.effects) none

structure Attended (client : Client) (timer : Option TimerStart) : Prop where
  resting : client.state = .unconnected → timer = none
  trying : client.state = .connecting →
    client.pendingTemplate.isSome ∨ timer = some ⟨client.settings.retryPause, false⟩
  polling : client.state = .connected → timer = some ⟨client.settings.pollInterval, true⟩

@[simp] theorem armed_append (history : List Entry) (entry : Entry) :
    armed (history ++ [entry]) = rewound (armed history) entry.input entry.effects :=
  List.foldl_concat ..

@[simp] theorem setBy_verdict (timer : Option TimerStart) (now : Nat) (submission : Submission)
    (result : Except Error Response) :
    (verdict now submission result).foldl setBy timer = timer := by
  unfold verdict
  split <;> rfl

theorem Attended.greeted (client : Client) (timer : Option TimerStart)
    (attended : client.Attended timer) :
    client.greeting.foldl setBy timer = some ⟨client.settings.pollInterval,true⟩ := by
  unfold greeting
  split
  next connected => exact attended.polling connected
  next => rfl

theorem Transition.attended {client next : Client} {now : Nat} {input : Input}
    {effects : List Effect} {answer : Answer}
    (moved : client.Transition now input next effects answer) (timer : Option TimerStart)
    (attended : client.Attended timer) : next.Attended (rewound timer input effects) := by
  have ⟨resting,trying,polling⟩ := attended
  cases moved with
  | stay _ _ stays =>
    cases input with
    | tick =>
      -- The tick of a start that does not repeat is lost, but then an answer is on its way.
      obtain ⟨_,idle | pending | ⟨connected,_⟩⟩ := stays
      · have off := resting idle
        exact ⟨fun _ => by simp [rewound,rung,off],by simp [idle],by simp [idle]⟩
      · refine ⟨fun idle => by simp [rewound,rung,resting idle],fun _ => .inl pending,?_⟩
        intro connected
        simp [rewound,rung,polling connected]
      · have on := polling connected
        exact ⟨by simp [connected],by simp [connected],fun _ => by simp [rewound,rung,on]⟩
    | connect | disconnect | complete | submit | generate | reconfigure => exact attended
  | connect => exact ⟨by simp,fun _ => .inl rfl,by simp⟩
  | disconnect => exact ⟨fun _ => rfl,by simp [dropped],by simp [dropped]⟩
  | tick busy =>
    refine ⟨by simp [busy],fun _ => .inl rfl,?_⟩
    intro connected
    simp [rewound,rung,setBy,polling connected]
  | refused => exact ⟨by simp,fun _ => .inr rfl,by simp⟩
  | kept => exact ⟨by simp,by simp,fun _ => attended.greeted client timer⟩
  | published =>
    refine ⟨by simp,by simp,fun _ => ?_⟩
    simp only [rewound,rung,List.foldl_append,attended.greeted client timer]
    rfl
  | undelivered =>
    refine ⟨by simp,fun _ => .inr ?_,by simp⟩
    simp [rewound,setBy]
  | resolved _ _ _ busy =>
    refine ⟨by simp [busy],fun _ => .inl rfl,?_⟩
    intro connected
    simp [rewound,rung,setBy,polling connected]
  | resolvedMeanwhile _ awaited _ _ busy waiting =>
    refine ⟨by simp [busy],fun _ => .inl (by simp [waiting]),?_⟩
    intro connected
    simp [rewound,rung,polling connected]
  | unclaimed => exact ⟨resting,trying,polling⟩
  | above =>
    have silent (dev : Bool) (report : ShareReport) (status : ShareStatus) :
        (if dev then [] else [Effect.result report status]).foldl setBy timer = timer := by
      cases dev <;> rfl
    simpa only [rewound,rung,silent] using attended
  | sent => exact ⟨resting,trying,polling⟩
  | generated => exact ⟨resting,trying,polling⟩
  | reconfigured =>
    refine ⟨fun _ => ?_,by simp [dropped],by simp [dropped]⟩
    by_cases idle : client.state = .unconnected
    · simp [rewound,rung,idle,resting idle]
    · simp [rewound,setBy,idle]

theorem timer_attended (history : List Entry) (client : Client) (run : Run history client) :
    client.Attended (armed history) := by
  induction run with
  | create settings entropy client made =>
    obtain ⟨_,idle,_⟩ := create_coherent settings entropy made
    exact ⟨fun _ => rfl,by simp [idle],by simp [idle]⟩
  | step history entry earlier ih =>
    rw [armed_append]
    exact (earlier.transition entry).attended _ ih

theorem timer_attended_retry : ∃ before entry after client,
    Run (before ++ entry :: after) client ∧ entry.client.state = .connected ∧
      client.state = .connecting ∧ client.pendingTemplate = none ∧
      armed (before ++ entry :: after) = some ⟨client.settings.retryPause, false⟩ := by
  obtain ⟨before,entry,after,client,run,connected,connecting,free⟩ := exists_run _ _ Sample.run
    [(2, .submit Sample.solution), (3, .complete 2 Sample.lost)]
    (fun entry _ client => entry.client.state = .connected ∧ client.state = .connecting ∧
      client.pendingTemplate = none)
    (by decide +kernel)
  refine ⟨before,entry,after,client,run,connected,connecting,free,?_⟩
  rcases (timer_attended _ client run).trying connecting with pending | set
  · simp [free] at pending
  · exact set

end SoloMining.Client
