import SoloMining.Proofs.Client.InFlight
import SoloMining.Proofs.Client.Refresh
import SoloMining.Proofs.Client.Rest

/-! How old the current job may grow. The one time that a client keeps is that of the latest
template it could use in its session, and a connected client asks for another once that is longer
ago than its settings allow. -/
namespace SoloMining.Client

/-- In the session that the history leads to, the latest template that the client could use came at
this time. -/
def Refreshed (history : List Entry) (time : Nat) : Prop :=
  ∃ before entry after, history = before ++ entry :: after ∧ entry.now = time ∧ entry.Receives ∧
    ∀ later ∈ after, ¬ later.Receives ∧ ¬ later.Resets

theorem refreshed_append (history : List Entry) (entry : Entry) (time : Nat) :
    Refreshed (history ++ [entry]) time ↔ (entry.Receives ∧ entry.now = time) ∨
      (¬ entry.Receives ∧ ¬ entry.Resets ∧ Refreshed history time) := by
  constructor
  · rintro ⟨before,latest,after,whole,same,received,quiet⟩
    -- The latest template came with the last operation, or that one is among those after it.
    rcases List.eq_nil_or_concat' after with rfl | ⟨between,last,rfl⟩
    · obtain ⟨_,equal⟩ := List.append_inj' whole rfl
      cases List.singleton_inj.mp equal
      exact .inl ⟨received,same⟩
    · rw [← List.cons_append,← List.append_assoc] at whole
      obtain ⟨earlier,equal⟩ := List.append_inj' whole rfl
      cases List.singleton_inj.mp equal
      obtain ⟨silent,lasting⟩ := quiet entry (by simp)
      refine .inr ⟨silent,lasting,before,latest,between,earlier,same,received,?_⟩
      intro later member
      exact quiet later (List.mem_append_left _ member)
  · rintro (⟨received,same⟩ | ⟨silent,lasting,before,latest,after,rfl,same,received,quiet⟩)
    · exact ⟨history,entry,[],rfl,same,received,by simp⟩
    · refine ⟨before,latest,after ++ [entry],by simp,same,received,?_⟩
      intro later member
      rcases List.mem_append.mp member with past | last
      · exact quiet later past
      · cases List.mem_singleton.mp last
        exact ⟨silent,lasting⟩

variable {client next : Client} {now : Nat} {input : Input} {effects : List Effect}
  {answer : Answer}

inductive Timed (entry : Entry) (answer : Answer) : Option Nat → Prop
  | renewed (received : entry.Receives) : Timed entry answer (some entry.now)
  | forgotten (silent : ¬ entry.Receives) (reset : Drops entry.input answer) :
      Timed entry answer none
  | same (silent : ¬ entry.Receives) (lasting : ¬ Drops entry.input answer) :
      Timed entry answer entry.client.jobs.lastRefresh

theorem Transition.timed {entry : Entry}
    (moved : entry.client.Transition entry.now entry.input next effects answer)
    (coherent : entry.client.Coherent) : Timed entry answer next.jobs.lastRefresh := by
  -- Only the answer to the pending request can bring a template.
  have unasked (other : ∀ id result, entry.input = .complete id result →
      entry.client.pendingTemplate ≠ some id) : ¬ entry.Receives := by
    rintro ⟨id,result,_,_,asked,awaited,_⟩
    exact other id result asked awaited
  obtain ⟨client,now,input⟩ := entry
  simp only at moved coherent unasked
  cases moved with
  | stay _ _ stays =>
    cases input with
    | disconnect =>
      rw [(coherent.vacant stays.2).refresh]
      exact .forgotten (unasked (by simp)) (.inl rfl)
    | complete id result =>
      have free := (coherent.vacant stays.2).template
      exact .same (unasked (by simp [free])) (by simp [Drops])
    | reconfigure settings entropy =>
      obtain ⟨fault,rfl,_⟩ := stays
      exact .same (unasked (by simp)) (by simp [Drops])
    | connect | tick | submit | generate => exact .same (unasked (by simp)) (by simp [Drops])
  | disconnect => exact .forgotten (unasked (by simp)) (.inl rfl)
  | reconfigured settings entropy jobs usable =>
    obtain ⟨empty,_⟩ := jobBoard_fresh settings entropy _ jobs usable
    have undated : jobs.lastRefresh = none := by rw [← empty]; rfl
    rw [undated]
    exact .forgotten (unasked (by simp)) (.inr ⟨settings,entropy,rfl,rfl⟩)
  | refused id failures result dice busy awaited counted unusable =>
    refine .same ?_ (by simp [Drops])
    rintro ⟨_,_,t,isNew,asked,_,usable,accepted⟩
    cases asked
    obtain ⟨fault,failed⟩ := unusable t usable
    rw [failed] at accepted
    cases accepted
  | kept id result t _ awaited usable _ accepted =>
    exact .renewed ⟨id,result,t,false,rfl,awaited,usable,by rw [accepted]⟩
  | published id result t _ _ _ _ _ awaited usable accepted =>
    exact .renewed ⟨id,result,t,true,rfl,awaited,usable,by rw [accepted]⟩
  | undelivered id _ _ _ _ unawaited | unclaimed id _ _ unawaited =>
    refine .same (unasked ?_) (by simp [Drops])
    rintro _ _ ⟨⟩
    exact unawaited
  | resolved _ _ _ _ free => exact .same (unasked (by simp [free])) (by simp [Drops])
  | resolvedMeanwhile id awaited _ _ _ waiting other =>
    refine .same (unasked ?_) (by simp [Drops])
    rintro _ _ ⟨⟩
    simpa [waiting] using other
  | connect | tick | above | sent | generated => exact .same (unasked (by simp)) (by simp [Drops])

/-- The time that a client keeps is that of the latest template of its session. -/
theorem Run.refreshed {history : List Entry} (run : Run history client) (time : Nat) :
    Refreshed history time ↔ client.jobs.lastRefresh = some time := by
  induction run with
  | create settings entropy client made =>
    obtain ⟨coherent,idle,_⟩ := create_coherent settings entropy made
    rw [(coherent.vacant idle).refresh]
    simp [Refreshed]
  | step history entry earlier ih =>
    rw [refreshed_append,ih]
    have timed : Timed entry entry.answer entry.next.jobs.lastRefresh :=
      (earlier.transition entry).timed earlier.coherent
    generalize entry.next.jobs.lastRefresh = refresh at timed
    cases timed with
    | renewed received => simp [received]
    | forgotten silent reset =>
      have dropped : entry.Resets := reset
      simp [silent,dropped]
    | same silent lasting =>
      have kept : ¬ entry.Resets := lasting
      simp [silent,kept]

/-- A job is never without the time of a template. -/
theorem Transition.dated (moved : client.Transition now input next effects answer)
    (dated : client.jobs.current.isSome → client.jobs.lastRefresh.isSome)
    (held : next.jobs.current.isSome) : next.jobs.lastRefresh.isSome := by
  cases moved with
  | kept | published => rfl
  | disconnect => simp [Client.dropped,JobBoard.clear] at held
  | reconfigured settings entropy jobs usable =>
    obtain ⟨_,empty,_⟩ := jobBoard_fresh settings entropy _ jobs usable
    simp [empty] at held
  | stay | connect | tick | refused | undelivered | resolved | resolvedMeanwhile | unclaimed
  | above | sent | generated => exact dated held

theorem Run.dated {history : List Entry} (run : Run history client)
    (held : client.jobs.current.isSome) : client.jobs.lastRefresh.isSome := by
  induction run with
  | create settings entropy client made =>
    obtain ⟨coherent,idle,_⟩ := create_coherent settings entropy made
    simp [coherent.jobless idle] at held
  | step history entry earlier ih => exact (earlier.transition entry).dated ih held

theorem Configured.timeout (configured : client.Configured) :
    client.jobs.timeout = client.settings.jobTimeout := by
  obtain ⟨_,_,_,stocked⟩ := configured
  exact congrArg JobBoard.timeout stocked

theorem Coherent.step_tick (coherent : client.Coherent) (connected : client.state = .connected)
    (now : Nat) : client.step now .tick =
      if client.pendingTemplate = none ∧ client.jobs.isExpired now = true then
        ⟨{ client with
            rpc := client.rpc.getBlockTemplate.2
            pendingTemplate := some client.rpc.nextId },
          [.fetch client.rpc.getBlockTemplate.1],.none⟩
      else ⟨client,[],.none⟩ := by
  have moved := coherent.transition client now .tick
  generalize client.step now .tick = taken at moved ⊢
  obtain ⟨next,effects,answer⟩ := taken
  cases moved with
  | stay _ _ stays =>
    obtain ⟨rfl,idle | awaited | ⟨_,fresh⟩⟩ := stays
    · cases connected.symm.trans idle
    · rw [if_neg]
      rintro ⟨free,_⟩
      exact absurd free (Option.ne_none_iff_isSome.mpr awaited)
    · rw [if_neg]
      rintro ⟨_,expired⟩
      cases fresh.symm.trans expired
  | tick busy free due => rw [if_pos ⟨free,due connected⟩]

/-- A tick of a connected client asks for a template exactly if none is under way and the latest one
of the session is longer ago than the settings allow. It does nothing else. -/
theorem tick_refreshes_when_due (history : List Entry) (client : Client) (run : Run history client)
    (connected : client.state = .connected) :
    ∃ last, (∀ time, Refreshed history time ↔ time = last) ∧ ∀ now,
      (Entry.Asks ⟨client, now, .tick⟩ ↔
        client.pendingTemplate = none ∧ client.settings.jobTimeout < now - last) ∧
      client.step now .tick =
        if client.pendingTemplate = none ∧ client.settings.jobTimeout < now - last then
          ⟨{ client with
              rpc := client.rpc.getBlockTemplate.2
              pendingTemplate := some client.rpc.nextId },
            [.fetch client.rpc.getBlockTemplate.1], .none⟩
        else ⟨client, [], .none⟩ := by
  have held := (run.coherent.working connected).2
  obtain ⟨last,kept⟩ := Option.isSome_iff_exists.mp (run.dated held)
  refine ⟨last,?_,?_⟩
  · intro time
    rw [run.refreshed,kept,Option.some.injEq,eq_comm]
  · intro now
    have taken := run.coherent.step_tick connected now
    simp only [client.jobs.isExpired_iff now last held kept,run.configured.timeout] at taken
    refine ⟨?_,taken⟩
    rw [Entry.Asks,Entry.effects,Entry.taken,taken]
    constructor
    · rintro ⟨request,sent,_⟩
      by_contra early
      simp [early] at sent
    · intro due
      rw [if_pos due]
      exact ⟨_,List.mem_singleton_self _,rfl⟩

/-- The way to the node fails, and the template of the second login keeps the job. The allowed time
is not over when just that much has passed. -/
theorem tick_refreshes_when_due_relogin : ∃ history client, Run history client ∧
    client.state = .connected ∧ Refreshed history 20004 ∧
      client.step 35004 .tick = ⟨client, [], .none⟩ ∧ Entry.Asks ⟨client, 35005, .tick⟩ := by
  obtain ⟨before,entry,after,client,run,connected,free,limit,kept⟩ := exists_run _ _ Sample.run
    [(15002, .tick), (15003, .complete 2 Sample.lost), (20003, .tick),
      (20004, .complete 3 (Sample.renewal Sample.firstBlock))]
    (fun _ _ client => client.state = .connected ∧ client.pendingTemplate = none ∧
      client.settings.jobTimeout = 15000 ∧ client.jobs.lastRefresh = some 20004)
    (by decide +kernel)
  have refreshed := (run.refreshed 20004).mpr kept
  obtain ⟨last,latest,ticks⟩ := tick_refreshes_when_due _ client run connected
  obtain rfl := (latest 20004).mp refreshed
  refine ⟨_,client,run,connected,refreshed,?_,?_⟩
  · rw [(ticks 35004).2,limit]
    simp
  · exact (ticks 35005).1.mpr ⟨free,by omega⟩

end SoloMining.Client
