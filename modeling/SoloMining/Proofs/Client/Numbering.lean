import SoloMining.Proofs.Client.Transition
import Mathlib.Data.List.Nodup

/-! Numbers of requests. The requests that a client waits for have distinct numbers, all of them
below the next one, so a new request never meets an old answer. -/
namespace SoloMining.Client

def claimed (client : Client) : List Nat :=
  client.pendingTemplate.toList ++ (client.submissions.map (·.seq) ++ client.diagnostics)

structure Numbered (client : Client) : Prop where
  positive : 0 < client.rpc.nextId
  distinct : client.claimed.Nodup
  below : ∀ id ∈ client.claimed, 0 < id ∧ id < client.rpc.nextId

variable {client next : Client}

theorem Numbered.fewer (numbered : client.Numbered) (kept : next.claimed.Sublist client.claimed)
    (same : next.rpc.nextId = client.rpc.nextId) : next.Numbered := by
  refine ⟨by rw [same]; exact numbered.positive,numbered.distinct.sublist kept,?_⟩
  intro id member
  rw [same]
  exact numbered.below id (kept.subset member)

theorem Numbered.issued (numbered : client.Numbered) (rest : List Nat)
    (grown : next.claimed.Perm (client.rpc.nextId :: rest)) (kept : rest.Sublist client.claimed)
    (counted : next.rpc.nextId = client.rpc.nextId + 1) : next.Numbered := by
  have fresh : client.rpc.nextId ∉ rest := by
    intro member
    exact Nat.lt_irrefl _ (numbered.below _ (kept.subset member)).2
  refine ⟨by omega,grown.nodup_iff.mpr ?_,?_⟩
  · exact List.nodup_cons.mpr ⟨fresh,numbered.distinct.sublist kept⟩
  · intro id member
    have positive := numbered.positive
    rcases List.mem_cons.mp (grown.mem_iff.mp member) with rfl | old
    · omega
    · have bound := numbered.below id (kept.subset old)
      omega

/-- Dropping a submission gives up its number and no other. -/
theorem claimed_without (client : Client) (id : Nat) :
    (client.pendingTemplate.toList ++ ((client.submissions.filter (·.seq != id)).map (·.seq) ++
      client.diagnostics)).Sublist client.claimed := by
  apply List.Sublist.append_left
  apply List.Sublist.append_right
  exact List.filter_sublist.map _

theorem Transition.numbered {now : Nat} {input : Input} {effects : List Effect} {answer : Answer}
    (moved : client.Transition now input next effects answer) (coherent : client.Coherent)
    (numbered : client.Numbered) : next.Numbered := by
  cases moved with
  | stay => exact numbered
  | connect idle =>
    obtain ⟨pending,submissions,diagnostics,_⟩ := coherent.resting idle
    apply numbered.issued [] _ (List.nil_sublist _) rfl
    simp [claimed,submissions,diagnostics]
  | disconnect busy => exact numbered.fewer (by simp [claimed,dropped]) rfl
  | tick busy free due =>
    apply numbered.issued client.claimed _ (List.Sublist.refl _) rfl
    simp [claimed,free]
  | refused id failures result dice busy awaited =>
    exact numbered.fewer (by simp [claimed]) rfl
  | kept id result t busy awaited => exact numbered.fewer (by simp [claimed]) rfl
  | published id result t height previousHash candidate dice busy awaited =>
    exact numbered.fewer (by simp [claimed]) rfl
  | undelivered id => exact numbered.fewer (claimed_without client id) rfl
  | resolved id result submission busy free =>
    apply numbered.issued _ _ (claimed_without client id) rfl
    simp [claimed,free]
  | resolvedMeanwhile id => exact numbered.fewer (claimed_without client id) rfl
  | unclaimed id =>
    refine numbered.fewer ?_ rfl
    apply List.Sublist.append_left
    apply List.Sublist.append_left
    exact List.filter_sublist
  | above => exact numbered
  | sent result job =>
    apply numbered.issued client.claimed _ (List.Sublist.refl _) rfl
    exact List.perm_middle
  | generated blocks =>
    apply numbered.issued client.claimed _ (List.Sublist.refl _) rfl
    simp only [claimed,← List.append_assoc]
    exact List.perm_middle
  | reconfigured settings entropy jobs => exact numbered.fewer (by simp [claimed,dropped]) rfl

theorem Run.numbered {history : List Entry} (run : Run history client) : client.Numbered := by
  induction run with
  | create settings entropy client made =>
    obtain ⟨coherent,idle,first,_⟩ := create_coherent settings entropy made
    obtain ⟨pending,submissions,diagnostics,_⟩ := coherent.resting idle
    exact ⟨by omega,by simp [claimed,pending,submissions,diagnostics],
      by simp [claimed,pending,submissions,diagnostics]⟩
  | step history entry earlier ih => exact (earlier.transition entry).numbered earlier.coherent ih

theorem Numbered.submission (numbered : client.Numbered) (submission : Submission)
    (live : submission ∈ client.submissions) :
    0 < submission.seq ∧ submission.seq < client.rpc.nextId := by
  apply numbered.below
  simp only [claimed,List.mem_append,List.mem_map]
  exact .inr (.inl ⟨submission,live,rfl⟩)

/-- The template request has a number that no submission has. -/
theorem Numbered.unawaited (numbered : client.Numbered) (id : Nat)
    (live : id ∈ client.submissions.map (·.seq)) : client.pendingTemplate ≠ some id := by
  intro awaited
  have apart := List.disjoint_of_nodup_append numbered.distinct
  apply apart (a := id)
  · simp [awaited]
  · exact List.mem_append_left _ live

theorem Numbered.found (numbered : client.Numbered) (submission : Submission)
    (live : submission ∈ client.submissions) :
    client.submissions.find? (·.seq == submission.seq) = some submission := by
  cases present : client.submissions.find? (·.seq == submission.seq) with
  | none =>
    have other := List.find?_eq_none.mp present submission live
    simp at other
  | some found =>
    have same : found.seq = submission.seq := by simpa using List.find?_some present
    have distinct : (client.submissions.map (·.seq)).Nodup :=
      numbered.distinct.of_append_right.of_append_left
    rw [List.inj_on_of_nodup_map distinct (List.mem_of_find?_eq_some present) live same]

inductive Answered (client : Client) (now : Nat) (submission : Submission)
    (result : Except Error Response) : Client → List Effect → Prop
  | lost (failures : UInt32) (counted : client.failures = some failures)
      (failed : (submissionOutcome result).2 = true) :
      Answered client now submission result
        { client with
          submissions := client.submissions.filter (·.seq != submission.seq)
          failures := some (failures + 1)
          state := .connecting }
        (verdict now submission result ++
          [.close (failures + 1), .startTimer client.settings.retryPause false])
  | asking (busy : client.state ≠ .unconnected) (free : client.pendingTemplate = none)
      (answered : (submissionOutcome result).2 = false) :
      Answered client now submission result
        { client with
          submissions := client.submissions.filter (·.seq != submission.seq)
          rpc := client.rpc.getBlockTemplate.2
          pendingTemplate := some client.rpc.nextId }
        (verdict now submission result ++ [.fetch client.rpc.getBlockTemplate.1])
  | waiting (busy : client.state ≠ .unconnected) (awaited : Nat)
      (waits : client.pendingTemplate = some awaited)
      (answered : (submissionOutcome result).2 = false) :
      Answered client now submission result
        { client with submissions := client.submissions.filter (·.seq != submission.seq) }
        (verdict now submission result)

theorem Transition.answered {now : Nat} {submission : Submission} {result : Except Error Response}
    {effects : List Effect} {answer : Answer}
    (moved : client.Transition now (.complete submission.seq result) next effects answer)
    (coherent : client.Coherent) (numbered : client.Numbered)
    (live : submission ∈ client.submissions) :
    answer = .none ∧ client.Answered now submission result next effects := by
  have found := numbered.found submission live
  have unawaited := numbered.unawaited submission.seq (List.mem_map_of_mem live)
  cases moved with
  | stay _ _ stays =>
    obtain ⟨_,empty,_⟩ := coherent.resting stays.2
    simp [empty] at live
  | refused _ _ _ _ _ awaited => exact absurd awaited unawaited
  | kept _ _ _ _ awaited => exact absurd awaited unawaited
  | published _ _ _ _ _ _ _ _ awaited => exact absurd awaited unawaited
  | undelivered _ failures _ _ _ _ present counted failed =>
    cases Option.some.inj (found.symm.trans present)
    exact ⟨rfl,.lost failures counted failed⟩
  | resolved _ _ _ busy free present answered =>
    cases Option.some.inj (found.symm.trans present)
    exact ⟨rfl,.asking busy free answered⟩
  | resolvedMeanwhile _ awaited _ _ busy waits _ present answered =>
    cases Option.some.inj (found.symm.trans present)
    exact ⟨rfl,.waiting busy awaited waits answered⟩
  | unclaimed _ _ _ _ absent => simp [found] at absent

end SoloMining.Client
