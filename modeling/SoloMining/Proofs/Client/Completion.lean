import SoloMining.Proofs.Client.InFlight

/-! Completions that come late, twice or for nothing. Every number that a client waits for was given
to a call of the running session and has not been completed since, and numbers are never given
again, so such a completion finds nothing to act on. -/
namespace SoloMining.Client

def Ignores (client : Client) (id : Nat) : Prop :=
  ∀ now result, client.step now (.complete id result) = ⟨client, [], .none⟩

def Entry.Calls (entry : Entry) (id : Nat) : Prop := ∃ method, id ∈ calls method entry.effects

/-- The number was given to a call since the latest connect that began a session. -/
def CalledInSession (history : List Entry) (id : Nat) : Prop :=
  ∃ before call after, history = before ++ call :: after ∧ call.Calls id ∧
    ∀ later ∈ after, ¬ later.Opens

/-- The call was completed in the same session; a completion from before the call is none of it. -/
def CompletedInSession (history : List Entry) (id : Nat) : Prop :=
  ∃ before call after, history = before ++ call :: after ∧ call.Calls id ∧
    (∀ later ∈ after, ¬ later.Opens) ∧ ∃ later ∈ after, later.Completes id

structure Matched (history : List Entry) (client : Client) (id : Nat) : Prop where
  stray : ¬ CalledInSession history id ∨ CompletedInSession history id → client.Ignores id
  /-- After a reset, no earlier call is waited for, and no later call gets its number. -/
  outdated : ∀ (before : List Entry) (call : Entry) (between : List Entry) (reset : Entry)
    (after : List Entry), history = before ++ call :: (between ++ reset :: after) →
    call.Calls id → reset.Resets →
    client.Ignores id ∧ (∀ method, id ∉ client.waiting method) ∧
      ∀ later ∈ reset :: after, ¬ later.Calls id
  live : ∀ (before : List Entry) (call : Entry) (after : List Entry) (blocks : UInt32),
    history = before ++ call :: after → call.input = .generate blocks →
    call.answer = .generated (.ok id) →
    (∀ later ∈ after, ¬ later.Completes id ∧ ¬ later.Resets) → id ∈ client.diagnostics
  /-- The completion of a live diagnostic call only takes its number off the set. -/
  noted : id ∈ client.diagnostics → ∀ now result, ∃ rest,
    client.step now (.complete id result) = ⟨{ client with diagnostics := rest }, [], .none⟩ ∧
    ∀ other, other ∈ rest ↔ other ∈ client.diagnostics ∧ other ≠ id

variable {client next : Client} {now : Nat} {input : Input} {effects : List Effect}
  {answer : Answer}

theorem completes_iff (entry : Entry) (id : Nat) :
    completes entry.input id = true ↔ entry.Completes id := by
  unfold Entry.Completes
  cases entry.input with
  | complete other result => simp [completes]
  | connect | disconnect | tick | submit | generate | reconfigure => simp [completes]

private theorem mem_calls_fetch (method : RpcMethod) (request : Request) (id : Nat) :
    id ∈ calls method [.fetch request] ↔ request.rpcMethod = method ∧ request.id = id := by
  simp [calls,call?,eq_comm]

theorem Transition.numbering (moved : client.Transition now input next effects answer)
    (method : RpcMethod) (id : Nat) (called : id ∈ calls method effects) :
    id = client.rpc.nextId ∧ next.rpc.nextId = client.rpc.nextId + 1 := by
  cases moved with
  | connect | tick | sent | generated =>
    rw [mem_calls_fetch] at called
    exact ⟨called.2.symm,rfl⟩
  | resolved =>
    rw [calls_append,calls_verdict,List.nil_append,mem_calls_fetch] at called
    exact ⟨called.2.symm,rfl⟩
  | kept => simp at called
  | published =>
    rw [calls_append,calls_greeting] at called
    simp [calls,call?] at called
  | undelivered =>
    rw [calls_append,calls_verdict] at called
    simp [calls,call?] at called
  | resolvedMeanwhile => simp at called
  | above => split at called <;> simp [calls,call?] at called
  | reconfigured => split at called <;> simp [calls,call?] at called
  | stay | disconnect | refused | unclaimed => simp [calls,call?] at called

theorem Transition.waiting_dropped (moved : client.Transition now input next effects answer)
    (coherent : client.Coherent) (drops : Drops input answer) (method : RpcMethod) :
    next.waiting method = [] ∧ calls method effects = [] := by
  rcases drops with rfl | ⟨settings,entropy,rfl,rfl⟩
  · cases moved with
    | stay _ _ stays => exact ⟨coherent.waiting_nil stays.2 method,rfl⟩
    | disconnect => exact ⟨by cases method <;> rfl,rfl⟩
  · cases moved with
    | stay _ _ stays =>
      obtain ⟨fault,same,_⟩ := stays
      simp at same
    | reconfigured =>
      refine ⟨by cases method <;> rfl,?_⟩
      split <;> rfl

/-- A client waits for what it waited for and what it calls, but not for what is completed or
dropped. -/
theorem Transition.waiting_cases (moved : client.Transition now input next effects answer)
    (coherent : client.Coherent) (numbered : client.Numbered) (method : RpcMethod) (id : Nat)
    (waits : id ∈ next.waiting method) :
    id ∈ client.waiting method ∧ completes input id = false ∨ id ∈ calls method effects := by
  by_cases drops : Drops input answer
  · obtain ⟨none,_⟩ := moved.waiting_dropped coherent drops method
    simp [none] at waits
  · rw [moved.waiting coherent numbered drops method,List.mem_append,List.mem_filter] at waits
    rcases waits with called | ⟨still,uncompleted⟩
    · exact .inr called
    · exact .inl ⟨still,by simpa using uncompleted⟩

structure Spent (client : Client) (id : Nat) : Prop where
  given : id < client.rpc.nextId
  released : ∀ method, id ∉ client.waiting method

theorem Transition.spent (moved : client.Transition now input next effects answer)
    (coherent : client.Coherent) (numbered : client.Numbered) (id : Nat) (spent : client.Spent id) :
    next.Spent id ∧ ∀ method, id ∉ calls method effects := by
  have others (method : RpcMethod) : id ∉ calls method effects := by
    -- A call gets the next number, and this one was given before.
    intro called
    have number := (moved.numbering method id called).1
    have given := spent.given
    omega
  refine ⟨⟨lt_of_lt_of_le spent.given moved.nextId_le,?_⟩,others⟩
  intro method waits
  rcases moved.waiting_cases coherent numbered method id waits with ⟨old,_⟩ | called
  · exact spent.released method old
  · exact others method called

theorem Run.spent (before : List Entry) (entry : Entry) (after : List Entry)
    (run : Run (before ++ entry :: after) client) (id : Nat) (spent : entry.next.Spent id) :
    client.Spent id ∧ ∀ later ∈ after, ¬ later.Calls id := by
  apply run.since (fun between middle => middle.Spent id ∧ ∀ later ∈ between, ¬ later.Calls id)
  · exact ⟨spent,by simp⟩
  · intro between later reached earlier
    obtain ⟨still,silent⟩ := earlier
    have moved := reached.transition later
    obtain ⟨goes,quiet⟩ := moved.spent reached.coherent reached.numbered id still
    refine ⟨goes,?_⟩
    intro entry member
    rcases List.mem_append.mp member with past | last
    · exact silent entry past
    · cases List.mem_singleton.mp last
      rintro ⟨method,called⟩
      exact quiet method called

theorem Run.given (before : List Entry) (call : Entry) (after : List Entry)
    (run : Run (before ++ call :: after) client) (id : Nat) (calls : call.Calls id) :
    id < client.rpc.nextId := by
  obtain ⟨method,called⟩ := calls
  have moved := (run.met before call after).transition call
  obtain ⟨number,counted⟩ := moved.numbering method id called
  have grown := run.nextId_le before call after
  omega

theorem Run.calledInSession (history : List Entry) (run : Run history client) (method : RpcMethod)
    (id : Nat) (waits : id ∈ client.waiting method) : CalledInSession history id := by
  induction run with
  | create settings entropy client made =>
    obtain ⟨coherent,idle,_⟩ := create_coherent settings entropy made
    simp [coherent.waiting_nil idle method] at waits
  | step history entry earlier ih =>
    have moved := earlier.transition entry
    rcases moved.waiting_cases earlier.coherent earlier.numbered method id waits with
      ⟨old,_⟩ | called
    · obtain ⟨before,call,after,rfl,calls,lasting⟩ := ih old
      refine ⟨before,call,after ++ [entry],by simp,calls,?_⟩
      intro later member
      rcases List.mem_append.mp member with past | last
      · exact lasting later past
      · cases List.mem_singleton.mp last
        -- A session begins with nothing to wait for.
        rintro ⟨_,idle⟩
        simp [earlier.coherent.waiting_nil idle method] at old
    · exact ⟨history,entry,[],rfl,⟨method,called⟩,by simp⟩

theorem Run.completed (before : List Entry) (call : Entry) (between : List Entry) (entry : Entry)
    (after : List Entry) (run : Run (before ++ call :: (between ++ entry :: after)) client)
    (id : Nat) (calls : call.Calls id) (completes : entry.Completes id) : client.Spent id := by
  have apart := run
  rw [← List.cons_append,← List.append_assoc] at apart
  have met := apart.met _ entry after
  have moved := met.transition entry
  have given := met.given before call between id calls
  refine (apart.spent _ entry after id ⟨lt_of_lt_of_le given moved.nextId_le,?_⟩).1
  intro method waits
  rcases moved.waiting_cases met.coherent met.numbered method id waits with ⟨_,open_⟩ | called
  · rw [(completes_iff entry id).mpr completes] at open_
    contradiction
  · have number := (moved.numbering method id called).1
    omega

theorem Run.outdated (before : List Entry) (call : Entry) (between : List Entry) (reset : Entry)
    (after : List Entry) (run : Run (before ++ call :: (between ++ reset :: after)) client)
    (id : Nat) (calls : call.Calls id) (resets : reset.Resets) :
    client.Spent id ∧ ∀ later ∈ reset :: after, ¬ later.Calls id := by
  rw [← List.cons_append,← List.append_assoc] at run
  have met := run.met _ reset after
  have moved := met.transition reset
  have given := met.given before call between id calls
  have dropped := moved.waiting_dropped met.coherent resets
  obtain ⟨spent,silent⟩ := run.spent _ reset after id ⟨lt_of_lt_of_le given moved.nextId_le,by
    intro method waits
    simp [(dropped method).1] at waits⟩
  refine ⟨spent,?_⟩
  intro later member
  rcases List.mem_cons.mp member with rfl | past
  · rintro ⟨method,called⟩
    simp [(dropped method).2] at called
  · exact silent later past

theorem Transition.unrequested (id : Nat) (result : Except Error Response)
    (moved : client.Transition now (.complete id result) next effects answer)
    (coherent : client.Coherent) (template : id ∉ client.waiting .getBlockTemplate)
    (submission : id ∉ client.waiting .submitBlock) :
    next = { client with diagnostics := client.diagnostics.filter (· != id) } ∧ effects = [] ∧
      answer = .none := by
  have unawaited : client.pendingTemplate ≠ some id := by simpa [Client.waiting] using template
  have unfound (found : Submission) : client.submissions.find? (·.seq == id) ≠ some found := by
    intro present
    have same : found.seq = id := by simpa using List.find?_some present
    exact submission (List.mem_map.mpr ⟨found,List.mem_of_find?_eq_some present,same⟩)
  cases moved with
  | stay _ _ stays =>
    obtain ⟨_,_,diagnostics,_⟩ := coherent.resting stays.2
    have same : client.diagnostics.filter (· != id) = client.diagnostics := by simp [diagnostics]
    rw [same]
    exact ⟨rfl,rfl,stays.1⟩
  | refused _ _ _ _ _ awaited => exact absurd awaited unawaited
  | kept _ _ _ _ awaited => exact absurd awaited unawaited
  | published _ _ _ _ _ _ _ _ awaited => exact absurd awaited unawaited
  | undelivered _ _ _ _ _ _ found => exact absurd found (unfound _)
  | resolved _ _ _ _ _ found => exact absurd found (unfound _)
  | resolvedMeanwhile _ _ _ _ _ _ _ found => exact absurd found (unfound _)
  | unclaimed => exact ⟨rfl,rfl,rfl⟩

theorem Coherent.unrequested (coherent : client.Coherent) (now id : Nat)
    (result : Except Error Response) (template : id ∉ client.waiting .getBlockTemplate)
    (submission : id ∉ client.waiting .submitBlock) :
    client.step now (.complete id result) =
      ⟨{ client with diagnostics := client.diagnostics.filter (· != id) },[],.none⟩ := by
  have moved := coherent.transition client now (.complete id result)
  generalize client.step now (.complete id result) = step at moved ⊢
  obtain ⟨next,effects,answer⟩ := step
  obtain ⟨rfl,rfl,rfl⟩ := moved.unrequested id result coherent template submission
  rfl

theorem Coherent.ignores (coherent : client.Coherent) (id : Nat)
    (released : ∀ method, id ∉ client.waiting method) : client.Ignores id := by
  intro now result
  rw [coherent.unrequested now id result (released _) (released _)]
  have diagnostics : id ∉ client.diagnostics := released .generateToAddress
  have same : client.diagnostics.filter (· != id) = client.diagnostics := by
    rw [List.filter_eq_self]
    intro other member
    have different : other ≠ id := by
      rintro rfl
      exact diagnostics member
    simpa using different
  rw [same]

theorem Run.live (before : List Entry) (call : Entry) (after : List Entry)
    (run : Run (before ++ call :: after) client) (blocks : UInt32) (id : Nat)
    (asked : call.input = .generate blocks) (answered : call.answer = .generated (.ok id))
    (lasting : ∀ later ∈ after, ¬ later.Completes id ∧ ¬ later.Resets) :
    id ∈ client.diagnostics := by
  revert lasting
  apply run.since (fun between middle =>
    (∀ later ∈ between, ¬ later.Completes id ∧ ¬ later.Resets) → id ∈ middle.diagnostics)
  · intro _
    have moved := (run.met before call after).transition call
    rw [asked,answered] at moved
    generalize call.next = next at moved ⊢
    generalize call.effects = effects at moved
    cases moved with
    | stay _ _ stays => simp [Stays] at stays
    | generated => exact List.mem_cons_self
  · intro between later reached earlier lasting
    have held : id ∈ later.client.waiting .generateToAddress :=
      earlier fun entry member => lasting entry (List.mem_append_left _ member)
    obtain ⟨uncompleted,unreset⟩ := lasting later (by simp)
    have moved := (reached.transition later).waiting reached.coherent reached.numbered unreset
      .generateToAddress
    have kept : id ∈ later.next.waiting .generateToAddress := by
      rw [moved]
      apply List.mem_append_right
      rw [List.mem_filter]
      exact ⟨held,by simpa [← completes_iff] using uncompleted⟩
    exact kept

/-- A completion acts only on the call that it completes: late, repeated and unknown ones do
nothing. -/
theorem completions_matched (history : List Entry) (client : Client) (run : Run history client)
    (id : Nat) : Matched history client id where
  stray := by
    intro stray
    apply run.coherent.ignores
    rcases stray with never | ⟨before,call,after,rfl,calls,_,entry,follows,completes⟩
    · intro method waits
      exact never (run.calledInSession history method id waits)
    · obtain ⟨between,rest,rfl⟩ := List.append_of_mem follows
      exact (run.completed before call between entry rest id calls completes).released
  outdated := by
    rintro before call between reset after rfl calls resets
    obtain ⟨spent,silent⟩ := run.outdated before call between reset after id calls resets
    exact ⟨run.coherent.ignores id spent.released,spent.released,silent⟩
  live := by
    rintro before call after blocks rfl asked answered lasting
    exact run.live before call after blocks id asked answered lasting
  noted := by
    intro live now result
    have waits : id ∈ client.waiting .generateToAddress := live
    have template := run.numbered.apart .generateToAddress .getBlockTemplate id waits nofun
    have submission := run.numbered.apart .generateToAddress .submitBlock id waits nofun
    refine ⟨_,run.coherent.unrequested now id result template submission,?_⟩
    simp

/-- A diagnostic call is answered only after the client has left and come back. -/
theorem completions_matched_reconnected : ∃ before call between reset after client,
    Run (before ++ call :: (between ++ reset :: after)) client ∧ call.Calls 2 ∧ reset.Resets ∧
      client.pendingTemplate = some 3 ∧ client.Ignores 2 ∧ (∀ method, 2 ∉ client.waiting method) ∧
      ∀ later ∈ reset :: after, ¬ later.Calls 2 := by
  obtain ⟨before,call,after,client,run,called,⟨reset,follows,resets⟩,pending⟩ :=
    exists_run _ _ Sample.run
      [(2, .generate 5), (3, .disconnect), (4, .connect)]
      (fun call after client => 2 ∈ calls .generateToAddress call.effects ∧
        (∃ reset ∈ after, reset.Resets) ∧ client.pendingTemplate = some 3)
      (by decide +kernel)
  obtain ⟨between,rest,rfl⟩ := List.append_of_mem follows
  have calls : call.Calls 2 := ⟨_,called⟩
  have outdated := (completions_matched _ client run 2).outdated before call between reset rest rfl
    calls resets
  exact ⟨before,call,between,reset,rest,client,run,calls,resets,pending,outdated⟩

end SoloMining.Client
