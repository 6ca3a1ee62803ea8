import SoloMining.Proofs.Client.Accounting
import Mathlib.Data.List.Pairwise

/-! Calls that wait for an answer. What a client holds of its template request, its submissions and
its diagnostics is, for each method, exactly the list of calls that it has made in the session and
that have not been completed since. -/
namespace SoloMining.Client

def call? (method : RpcMethod) : Effect → Option Nat
  | .fetch request => if request.rpcMethod = method then some request.id else none
  | _ => none

def calls (method : RpcMethod) (effects : List Effect) : List Nat :=
  effects.filterMap (call? method)

def completes (input : Input) (id : Nat) : Bool :=
  match input with
  | .complete other _ => other == id
  | _ => false

/-- The calls of one method that some operations make and that no later one of them completes, the
latest first. -/
def unanswered (method : RpcMethod) (session : List Entry) : List Nat :=
  session.foldl
    (fun earlier entry =>
      calls method entry.effects ++ earlier.filter fun id => !completes entry.input id) []

def waiting (client : Client) : RpcMethod → List Nat
  | .getBlockTemplate => client.pendingTemplate.toList
  | .submitBlock => client.submissions.map (·.seq)
  | .generateToAddress => client.diagnostics
  | .other _ => []

def Entry.Opens (entry : Entry) : Prop :=
  entry.input = .connect ∧ entry.client.state = .unconnected

variable {client next : Client} {now : Nat} {input : Input} {effects : List Effect}
  {answer : Answer}

@[simp] theorem unanswered_append (method : RpcMethod) (session : List Entry) (entry : Entry) :
    unanswered method (session ++ [entry]) = calls method entry.effects ++
      (unanswered method session).filter fun id => !completes entry.input id :=
  List.foldl_concat ..

@[simp] theorem calls_append (method : RpcMethod) (first second : List Effect) :
    calls method (first ++ second) = calls method first ++ calls method second :=
  List.filterMap_append

@[simp] theorem calls_greeting (method : RpcMethod) (client : Client) :
    calls method client.greeting = [] := by
  unfold greeting
  split <;> rfl

@[simp] theorem calls_verdict (method : RpcMethod) (now : Nat) (submission : Submission)
    (result : Except Error Response) : calls method (verdict now submission result) = [] := by
  unfold verdict
  split <;> rfl

def methods : List RpcMethod := [.getBlockTemplate, .submitBlock, .generateToAddress]

theorem claimed_eq_flatMap (client : Client) : client.claimed = methods.flatMap client.waiting := by
  simp [claimed,methods,waiting]

theorem mem_methods (method : RpcMethod) (id : Nat) (waits : id ∈ client.waiting method) :
    method ∈ methods := by
  cases method with
  | other => simp [waiting] at waits
  | getBlockTemplate | submitBlock | generateToAddress => simp [methods]

theorem Numbered.apart (numbered : client.Numbered) (first second : RpcMethod) (id : Nat)
    (waits : id ∈ client.waiting first) (different : first ≠ second) :
    id ∉ client.waiting second := by
  have distinct := numbered.distinct
  rw [claimed_eq_flatMap,List.nodup_flatMap] at distinct
  intro also
  have symmetric : Std.Symm (Function.onFun List.Disjoint client.waiting) :=
    ⟨fun _ _ apart => List.disjoint_symm apart⟩
  exact distinct.2.forall (mem_methods first id waits) (mem_methods second id also) different waits
    also

private theorem uncompleted (waits : List Nat) (id : Nat) (result : Except Error Response)
    (absent : id ∉ waits) :
    (waits.filter fun other => !completes (.complete id result) other) = waits := by
  rw [List.filter_eq_self]
  intro other member
  have different : id ≠ other := by
    rintro rfl
    exact absent member
  simpa [completes] using different

private theorem waiting_struck (client : Client) (id : Nat) (result : Except Error Response) :
    (client.submissions.filter (·.seq != id)).map (·.seq) =
      (client.waiting .submitBlock).filter fun other => !completes (.complete id result) other := by
  simp only [Client.waiting,List.filter_map]
  congr 2
  funext submission
  simp [completes,bne,Bool.beq_comm]

private theorem Numbered.template_answered (numbered : client.Numbered) (id : Nat)
    (awaited : client.pendingTemplate = some id) (result : Except Error Response)
    (method : RpcMethod) (silent : calls method effects = [])
    (template : next.pendingTemplate = none) (submissions : next.submissions = client.submissions)
    (diagnostics : next.diagnostics = client.diagnostics) :
    next.waiting method = calls method effects ++
      (client.waiting method).filter fun other => !completes (.complete id result) other := by
  have waits : id ∈ client.waiting .getBlockTemplate := by simp [Client.waiting,awaited]
  rw [silent,List.nil_append]
  cases method with
  | getBlockTemplate => simp [Client.waiting,template,awaited,completes]
  | submitBlock =>
    rw [uncompleted _ id result (numbered.apart .getBlockTemplate .submitBlock id waits nofun)]
    simp [Client.waiting,submissions]
  | generateToAddress =>
    have other := numbered.apart .getBlockTemplate .generateToAddress id waits nofun
    rw [uncompleted _ id result other]
    exact diagnostics
  | other => rfl

private theorem Numbered.submission_answered (numbered : client.Numbered) (id : Nat)
    (submission : Submission)
    (found : client.submissions.find? (·.seq == id) = some submission)
    (result : Except Error Response) (method : RpcMethod) (silent : calls method effects = [])
    (template : next.pendingTemplate = client.pendingTemplate)
    (submissions : next.submissions = client.submissions.filter (·.seq != id))
    (diagnostics : next.diagnostics = client.diagnostics) :
    next.waiting method = calls method effects ++
      (client.waiting method).filter fun other => !completes (.complete id result) other := by
  have waits : id ∈ client.waiting .submitBlock := by
    have same : submission.seq = id := by simpa using List.find?_some found
    exact List.mem_map.mpr ⟨submission,List.mem_of_find?_eq_some found,same⟩
  rw [silent,List.nil_append]
  cases method with
  | getBlockTemplate =>
    rw [uncompleted _ id result (numbered.apart .submitBlock .getBlockTemplate id waits nofun)]
    simp [Client.waiting,template]
  | submitBlock =>
    rw [← waiting_struck]
    simp [Client.waiting,submissions]
  | generateToAddress =>
    rw [uncompleted _ id result (numbered.apart .submitBlock .generateToAddress id waits nofun)]
    exact diagnostics
  | other => rfl

private theorem diagnostic_answered (id : Nat) (result : Except Error Response)
    (unawaited : client.pendingTemplate ≠ some id)
    (absent : client.submissions.find? (·.seq == id) = none) (method : RpcMethod) :
    { client with diagnostics := client.diagnostics.filter (· != id) }.waiting method =
      (client.waiting method).filter fun other => !completes (.complete id result) other := by
  cases method with
  | getBlockTemplate =>
    have template : id ∉ client.waiting .getBlockTemplate := by
      simpa [Client.waiting] using unawaited
    rw [uncompleted _ id result template]
    rfl
  | submitBlock =>
    have submission : id ∉ client.waiting .submitBlock := by
      simpa [Client.waiting] using absent
    rw [uncompleted _ id result submission]
    rfl
  | generateToAddress => simp [Client.waiting,completes,bne,Bool.beq_comm]
  | other => rfl

/-- An operation other than a reset goes on waiting for what it does not complete, and waits for the
calls that it makes. -/
theorem Transition.waiting (moved : client.Transition now input next effects answer)
    (coherent : client.Coherent) (numbered : client.Numbered) (lasting : ¬ Drops input answer)
    (method : RpcMethod) :
    next.waiting method = calls method effects ++
      (client.waiting method).filter fun id => !completes input id := by
  cases moved with
  | stay input answer stays =>
    cases input with
    | complete id result =>
      obtain ⟨template,submissions,diagnostics,_⟩ := coherent.resting stays.2
      cases method <;> simp [Client.waiting,template,submissions,diagnostics,calls]
    | connect | disconnect | tick | submit | generate | reconfigure => simp [calls,completes]
  | connect idle =>
    obtain ⟨template,submissions,diagnostics,_⟩ := coherent.resting idle
    cases method <;> simp [Client.waiting,submissions,diagnostics,calls,call?,completes,
      RpcClient.getBlockTemplate,RpcClient.request,template]
  | disconnect => simp [Drops] at lasting
  | tick busy free =>
    cases method <;> simp [Client.waiting,free,calls,call?,completes,RpcClient.getBlockTemplate,
      RpcClient.request]
  | refused id failures result dice busy awaited =>
    apply numbered.template_answered id awaited result method <;> rfl
  | kept id result t busy awaited =>
    have silent := calls_greeting method client
    apply numbered.template_answered id awaited result method silent <;> rfl
  | published id result t height previousHash candidate dice busy awaited =>
    have silent (job : Job) :
        calls method (client.greeting ++ [.reward candidate.reward,.job job]) = [] := by
      rw [calls_append,calls_greeting]
      rfl
    apply numbered.template_answered id awaited result method (silent _) <;> rfl
  | undelivered id failures result submission busy unawaited found =>
    have silent : calls method (verdict now submission result ++
        [.close (failures + 1),.startTimer client.settings.retryPause false]) = [] := by
      rw [calls_append,calls_verdict]
      rfl
    apply numbered.submission_answered id submission found result method silent <;> rfl
  | resolved id result submission busy free found =>
    -- The answer is struck off as in the other cases, and the new request comes on top.
    have silent := calls_verdict method now submission result
    have struck : { client with
        submissions := client.submissions.filter (·.seq != id) }.waiting method =
          calls method (verdict now submission result) ++
            (client.waiting method).filter fun other => !completes (.complete id result) other := by
      apply numbered.submission_answered id submission found result method silent <;> rfl
    rw [silent,List.nil_append] at struck
    rw [calls_append,silent,List.nil_append,← struck]
    cases method <;> simp [Client.waiting,free,calls,call?,RpcClient.getBlockTemplate,
      RpcClient.request]
  | resolvedMeanwhile id awaited result submission busy waiting other found =>
    have silent := calls_verdict method now submission result
    apply numbered.submission_answered id submission found result method silent <;> rfl
  | unclaimed id result busy unawaited absent =>
    exact diagnostic_answered id result unawaited absent method
  | above =>
    split <;> simp [calls,call?,completes]
  | sent =>
    cases method <;> simp [Client.waiting,calls,call?,completes,RpcClient.submitBlock,
      RpcClient.request,record]
  | generated =>
    cases method <;> simp [Client.waiting,calls,call?,completes,RpcClient.generateToAddress,
      RpcClient.request]
  | reconfigured => simp [Drops] at lasting

theorem Coherent.waiting_nil (coherent : client.Coherent) (idle : client.state = .unconnected)
    (method : RpcMethod) : client.waiting method = [] := by
  obtain ⟨template,submissions,diagnostics,_⟩ := coherent.resting idle
  cases method <;> simp [waiting,template,submissions,diagnostics]

/-- In a session the client waits for exactly the calls that were not completed. -/
theorem Run.waiting (before : List Entry) (opening : Entry) (since : List Entry)
    (run : Run (before ++ opening :: since) client) (opens : opening.Opens)
    (lasting : ∀ later ∈ since, ¬ later.Resets) (method : RpcMethod) :
    unanswered method (opening :: since) = client.waiting method := by
  revert lasting
  apply run.since (fun between middle => (∀ later ∈ between, ¬ later.Resets) →
    unanswered method (opening :: between) = middle.waiting method)
  · intro _
    have met := run.met before opening since client
    have lasting : ¬ opening.Resets := by simp [Entry.Resets,Drops,opens.1]
    have moved := (met.transition opening).waiting met.coherent met.numbered lasting method
    rw [met.coherent.waiting_nil opens.2 method] at moved
    exact moved.symm
  · intro between later reached earlier lasting
    have same := earlier fun entry member => lasting entry (List.mem_append_left _ member)
    have moved := (reached.transition later).waiting reached.coherent reached.numbered
      (lasting later (by simp)) method
    rw [← List.cons_append,unanswered_append,same,moved]

/-- From a connect to the next disconnect, the template requests that were made and not completed
are the one that the client holds as pending, or none. -/
theorem sole_template_request (before : List Entry) (opening : Entry) (since : List Entry)
    (client : Client) (run : Run (before ++ opening :: since) client) (opens : opening.Opens)
    (lasting : ∀ later ∈ since, ¬ later.Resets) :
    unanswered .getBlockTemplate (opening :: since) = client.pendingTemplate.toList :=
  run.waiting before opening since opens lasting .getBlockTemplate

instance (entry : Entry) : Decidable entry.Opens :=
  match asked : entry.input with
  | .connect => decidable_of_iff (entry.client.state = .unconnected) (by simp [Entry.Opens,asked])
  | .disconnect | .tick | .complete _ _ | .submit _ | .generate _ | .reconfigure _ _ =>
    isFalse (by simp [Entry.Opens,asked])

instance (input : Input) (answer : Answer) : Decidable (Drops input answer) :=
  match input, answer with
  | .disconnect, _ => isTrue (.inl rfl)
  | .reconfigure settings entropy, .reconfigured (.ok ()) =>
    isTrue (.inr ⟨settings,entropy,rfl,rfl⟩)
  | .reconfigure _ _, .reconfigured (.error _) => isFalse (by simp [Drops])
  | .reconfigure _ _, .none => isFalse (by simp [Drops])
  | .reconfigure _ _, .submitted _ => isFalse (by simp [Drops])
  | .reconfigure _ _, .generated _ => isFalse (by simp [Drops])
  | .connect, _ => isFalse (by simp [Drops])
  | .tick, _ => isFalse (by simp [Drops])
  | .complete _ _, _ => isFalse (by simp [Drops])
  | .submit _, _ => isFalse (by simp [Drops])
  | .generate _, _ => isFalse (by simp [Drops])

instance (entry : Entry) : Decidable entry.Resets :=
  inferInstanceAs (Decidable (Drops entry.input entry.answer))

/-- In a second session a diagnostic call is under way, and the way to the node fails before the template
arrives. -/
theorem sole_template_request_retry : ∃ before opening since client,
    Run (before ++ opening :: since) client ∧ opening.Opens ∧ (∀ later ∈ since, ¬ later.Resets) ∧
      client.state = .connecting ∧ unanswered .getBlockTemplate (opening :: since) = [4] := by
  obtain ⟨before,opening,since,client,run,opens,lasting,connecting,pending⟩ :=
    exists_run _ _ Sample.run
      [(2, .disconnect), (3, .connect), (4, .generate 5), (5, .complete 2 Sample.lost),
        (5005, .tick)]
      (fun opening since client => opening.Opens ∧ (∀ later ∈ since, ¬ later.Resets) ∧
        client.state = .connecting ∧ client.pendingTemplate = some 4)
      (by decide +kernel)
  refine ⟨before,opening,since,client,run,opens,lasting,connecting,?_⟩
  rw [sole_template_request before opening since client run opens lasting,pending]
  rfl

end SoloMining.Client
