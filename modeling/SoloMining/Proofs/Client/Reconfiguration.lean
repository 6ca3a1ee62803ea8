import SoloMining.EventLoop
import SoloMining.Proofs.Address
import SoloMining.Proofs.Client.Accounting
import SoloMining.Proofs.Client.Rest
import SoloMining.Proofs.Client.Signals
import Mathlib.Data.List.Pairwise

/-! New settings. They are refused as a whole, or else the client is as one that was made for them
and goes on counting. From then on every request is made for them, until others are taken. -/
namespace SoloMining

structure Request.MadeFor (request : Request) (settings : ClientSettings) : Prop where
  endpoint : request.endpoint = settings.endpoint
  headers : request.headers = ("Content-Type", "application/json") ::
    settings.credentials.toList.map fun credentials => ("Authorization", credentials.basicAuth)

namespace Client

def request? : Effect → Option Request
  | .fetch request => some request
  | _ => none

def requests (history : List Entry) : List Request := (happened history).filterMap request?

def Entry.Reconfigures (entry : Entry) : Prop :=
  ∃ settings entropy, entry.input = .reconfigure settings entropy ∧
    entry.answer = .reconfigured (.ok ())

variable {client next : Client} {now : Nat} {input : Input} {effects : List Effect}
  {answer : Answer} {settings : ClientSettings} {entropy : UInt64}

@[simp] theorem requests_append (history : List Entry) (entry : Entry) :
    requests (history ++ [entry]) = requests history ++ entry.effects.filterMap request? := by
  rw [requests,happened_append,List.filterMap_append]
  rfl

@[simp] theorem filterMap_verdict (submission : Submission) (result : Except Error Response) :
    (verdict now submission result).filterMap request? = [] := by
  unfold verdict
  split <;> rfl

@[simp] theorem filterMap_greeting (client : Client) : client.greeting.filterMap request? = [] := by
  unfold greeting
  split <;> rfl

/-- An operation makes one request or none, by the rpc client that it meets. -/
theorem Transition.requested (moved : client.Transition now input next effects answer) :
    (effects.filterMap request? = [] ∧ next.rpc.nextId = client.rpc.nextId) ∨
      ∃ method params, effects.filterMap request? = [(client.rpc.request method params).1] ∧
        next.rpc = (client.rpc.request method params).2 := by
  cases moved with
  | connect | tick => exact .inr ⟨.getBlockTemplate,RpcClient.templateParams,rfl,rfl⟩
  | resolved =>
    refine .inr ⟨.getBlockTemplate,RpcClient.templateParams,?_,rfl⟩
    rw [List.filterMap_append,filterMap_verdict]
    rfl
  | sent => exact .inr ⟨.submitBlock,_,rfl,rfl⟩
  | generated => exact .inr ⟨.generateToAddress,_,rfl,rfl⟩
  | published =>
    refine .inl ⟨?_,rfl⟩
    rw [List.filterMap_append,filterMap_greeting]
    rfl
  | kept => exact .inl ⟨filterMap_greeting client,rfl⟩
  | undelivered =>
    refine .inl ⟨?_,rfl⟩
    rw [List.filterMap_append,filterMap_verdict]
    rfl
  | resolvedMeanwhile => exact .inl ⟨filterMap_verdict _ _,rfl⟩
  | above =>
    refine .inl ⟨?_,rfl⟩
    split <;> rfl
  | reconfigured =>
    refine .inl ⟨?_,rfl⟩
    split <;> rfl
  | stay | disconnect | refused | unclaimed => exact .inl ⟨rfl,rfl⟩

theorem Run.requests_counted {history : List Entry} (run : Run history client) :
    client.rpc.nextId = (requests history).length + 1 := by
  induction run with
  | create settings entropy client made =>
    obtain ⟨_,_,first,_⟩ := create_coherent settings entropy made
    exact first
  | step history entry earlier ih =>
    rw [requests_append,List.length_append]
    rcases (earlier.transition entry).requested with ⟨silent,same⟩ | ⟨method,params,sent,counted⟩
    · rw [silent,same,ih]
      rfl
    · have next : entry.next.rpc.nextId = entry.client.rpc.nextId + 1 :=
        congrArg RpcClient.nextId counted
      rw [sent,next,ih]
      rfl

/-- Requests are numbered upwards over the whole run, past every change of the settings. -/
theorem Run.requests_ascend {history : List Entry} (run : Run history client) :
    (requests history).Pairwise (fun earlier later => earlier.id < later.id) ∧
      ∀ request ∈ requests history, request.id < client.rpc.nextId := by
  induction run with
  | create => exact ⟨.nil,by simp [requests,happened]⟩
  | step history entry earlier ih =>
    obtain ⟨ascending,below⟩ := ih
    have moved := earlier.transition entry
    have grown := moved.nextId_le
    rw [requests_append]
    rcases moved.requested with ⟨silent,_⟩ | ⟨method,params,sent,counted⟩
    · rw [silent,List.append_nil]
      refine ⟨ascending,?_⟩
      intro request member
      exact lt_of_lt_of_le (below request member) grown
    · rw [sent]
      have next : entry.next.rpc.nextId = entry.client.rpc.nextId + 1 :=
        congrArg RpcClient.nextId counted
      constructor
      · rw [List.pairwise_append]
        refine ⟨ascending,List.pairwise_singleton _ _,?_⟩
        intro request member latest last
        cases List.mem_singleton.mp last
        exact below request member
      · intro request member
        rcases List.mem_append.mp member with past | last
        · have small := below request past
          omega
        · cases List.mem_singleton.mp last
          change entry.client.rpc.nextId < _
          omega

/-- The numbers of fewer than 2^64 requests take no more than 64 bits. -/
theorem Run.requests_fit {history : List Entry} (run : Run history client)
    (few : (requests history).length < 2 ^ 64) (request : Request)
    (member : request ∈ requests history) : request.id < 2 ^ 64 := by
  have below := run.requests_ascend.2 request member
  have counted := run.requests_counted
  omega

theorem Configured.requested (configured : client.Configured)
    (moved : client.Transition now input next effects answer) (request : Request)
    (sent : request ∈ effects.filterMap request?) : request.MadeFor client.settings := by
  rcases moved.requested with ⟨silent,_⟩ | ⟨method,params,made,_⟩
  · rw [silent] at sent
    cases sent
  · rw [made] at sent
    cases List.mem_singleton.mp sent
    have wired := configured.wired
    refine ⟨?_,?_⟩
    · change client.rpc.endpoint = _
      rw [wired]
      rfl
    · change RpcClient.headers client.rpc.authorization = _
      rw [wired]
      cases client.settings.credentials <;> rfl

theorem Transition.settings_kept (moved : client.Transition now input next effects answer) :
    next.settings = client.settings ∨
      ∃ settings entropy, input = .reconfigure settings entropy ∧
        answer = .reconfigured (.ok ()) := by
  cases moved with
  | reconfigured settings entropy => exact .inr ⟨settings,entropy,rfl,rfl⟩
  | stay | connect | disconnect | tick | refused | kept | published | undelivered | resolved
  | resolvedMeanwhile | unclaimed | above | sent | generated => exact .inl rfl

/-- As long as no others are taken, all requests are made for the settings that an operation
leaves. -/
theorem Run.requested (before : List Entry) (entry : Entry) (after : List Entry)
    (run : Run (before ++ entry :: after) client)
    (lasting : ∀ later ∈ after, ¬ later.Reconfigures) :
    client.settings = entry.next.settings ∧
      ∀ request ∈ requests after, request.MadeFor entry.next.settings := by
  revert lasting
  apply run.since (fun between middle => (∀ later ∈ between, ¬ later.Reconfigures) →
    middle.settings = entry.next.settings ∧
      ∀ request ∈ requests between, request.MadeFor entry.next.settings)
  · intro _
    exact ⟨rfl,by simp [requests,happened]⟩
  · intro between later reached earlier lasting
    obtain ⟨same,made⟩ := earlier fun other member => lasting other (List.mem_append_left _ member)
    have moved := reached.transition later
    constructor
    · rcases moved.settings_kept with kept | replaced
      · exact kept.trans same
      · exact absurd replaced (lasting later (by simp))
    · intro request member
      rw [requests_append] at member
      rcases List.mem_append.mp member with past | last
      · exact made request past
      · rw [← same]
        exact reached.configured.requested moved request last

def Sample.elsewhere : ClientSettings :=
  { Sample.settings with
    endpoint := .root "127.0.0.2" 10226 true
    credentials := some ⟨"miner", "secret"⟩ }

end Client

end SoloMining
