import SoloMining.Proofs.Base64
import SoloMining.Proofs.Hex
import SoloMining.Proofs.Json.Canonical
import SoloMining.Rpc.Request
import Mathlib.Data.List.Induction

/-! What the calls of a node say. The calls that were made before tell which number a request has, and
the latest change of the node tells where it goes and who it speaks for. -/
namespace SoloMining

namespace RpcClient

inductive Call
  | getBlockTemplate
  | submitBlock (blockHex : String)
  | generateToAddress (blocks : UInt32) (address : String)
  | reconfigure (endpoint : Endpoint) (credentials : Option Credentials)

def Call.question? : Call → Option (RpcMethod × Json)
  | .getBlockTemplate =>
    some (.getBlockTemplate,.array [.object [("rules",.array [.string "segwit"])]])
  | .submitBlock blockHex => some (.submitBlock,.object [("hexdata",.string blockHex)])
  | .generateToAddress blocks address =>
    some (.generateToAddress,
      .object [("address",.string address), ("nblocks",.ofNat blocks.toNat)])
  | .reconfigure _ _ => none

def Call.node? : Call → Option (Endpoint × Option Credentials)
  | .reconfigure endpoint credentials => some (endpoint,credentials)
  | _ => none

def latest (endpoint : Endpoint) (credentials : Option Credentials) (calls : List Call) :
    Endpoint × Option Credentials :=
  (calls.filterMap Call.node?).getLast?.getD (endpoint,credentials)

def perform (rpc : RpcClient) : Call → Option Request × RpcClient
  | .getBlockTemplate =>
    let (request,next) := rpc.getBlockTemplate
    (some request,next)
  | .submitBlock blockHex =>
    let (request,next) := rpc.submitBlock blockHex
    (some request,next)
  | .generateToAddress blocks address =>
    let (request,next) := rpc.generateToAddress blocks address
    (some request,next)
  | .reconfigure endpoint credentials => (none,rpc.reconfigure endpoint credentials)

def run : RpcClient → List Call → List Request × RpcClient
  | rpc, [] => ([],rpc)
  | rpc, call :: rest =>
    let (made,next) := rpc.perform call
    let (later,last) := next.run rest
    (made.toList ++ later,last)

theorem run_append (rpc : RpcClient) (before after : List Call) :
    rpc.run (before ++ after) =
      ((rpc.run before).1 ++ ((rpc.run before).2.run after).1,((rpc.run before).2.run after).2) := by
  induction before generalizing rpc with
  | nil => rfl
  | cons call rest ih => simp only [List.cons_append,run,ih,List.append_assoc]

theorem perform_question (rpc : RpcClient) (call : Call) (method : RpcMethod) (params : Json)
    (asks : call.question? = some (method,params)) :
    rpc.perform call = (some (rpc.request method params).1,(rpc.request method params).2) := by
  cases call <;> cases asks <;> rfl

theorem question_faithful (call : Call) (method : RpcMethod) (params : Json)
    (asks : call.question? = some (method,params)) : Json.Faithful 126 params := by
  cases call with
  | getBlockTemplate =>
    cases asks
    have rules : Json.Faithful 125 (.ofMembers [("rules",.array [.string "segwit"])]) := by
      apply Json.Faithful.ofMembers
      simp only [List.forall_mem_singleton]
      exact .array (List.forall_mem_singleton.mpr (.string _))
    exact .array (List.forall_mem_singleton.mpr rules)
  | submitBlock blockHex =>
    cases asks
    have named : Json.Faithful 126 (.ofMembers [("hexdata",.string blockHex)]) := by
      apply Json.Faithful.ofMembers
      simp only [List.forall_mem_singleton]
      exact .string _
    exact named
  | generateToAddress blocks address =>
    cases asks
    have named : Json.Faithful 126
        (.ofMembers [("address",.string address), ("nblocks",.ofNat blocks.toNat)]) := by
      have small := blocks.toNat_lt
      apply Json.Faithful.ofMembers
      simp only [List.forall_mem_cons]
      exact ⟨.string _,.ofNat _ (by omega),List.forall_mem_nil _⟩
    exact named
  | reconfigure => cases asks

theorem latest_concat (endpoint : Endpoint) (credentials : Option Credentials)
    (calls : List Call) (call : Call) :
    latest endpoint credentials (calls ++ [call]) =
      call.node?.getD (latest endpoint credentials calls) := by
  cases moved : call.node? <;> simp [latest,moved]

structure Stands (rpc : RpcClient) (made : Nat) (node : Endpoint × Option Credentials) : Prop where
  counted : rpc.nextId = made + 1
  endpoint : rpc.endpoint = node.1
  authorization : rpc.authorization = node.2.map Credentials.basicAuth

theorem Stands.perform {rpc : RpcClient} {made : Nat} {node : Endpoint × Option Credentials}
    (stands : rpc.Stands made node) (call : Call) :
    (rpc.perform call).2.Stands (made + (rpc.perform call).1.toList.length)
      (call.node?.getD node) := by
  cases call with
  | reconfigure => exact ⟨stands.counted,rfl,rfl⟩
  | getBlockTemplate | submitBlock | generateToAddress =>
    exact ⟨congrArg (· + 1) stands.counted,stands.endpoint,stands.authorization⟩

theorem run_stands (endpoint : Endpoint) (credentials : Option Credentials) (calls : List Call) :
    ((create endpoint credentials).run calls).2.Stands
      ((create endpoint credentials).run calls).1.length (latest endpoint credentials calls) := by
  induction calls using List.reverseRecOn with
  | nil => exact ⟨rfl,rfl,rfl⟩
  | append_singleton calls call ih =>
    have next := ih.perform call
    rw [run_append,latest_concat,List.length_append]
    simpa only [run,List.append_nil] using next

theorem run_length (rpc : RpcClient) (calls : List Call) :
    (rpc.run calls).1.length = (calls.filterMap Call.question?).length := by
  induction calls generalizing rpc with
  | nil => rfl
  | cons call rest ih =>
    cases call <;> simp [run,perform,List.filterMap_cons,Call.question?,ih]

end RpcClient

def Request.authorization (request : Request) : List String :=
  (request.headers.filter (·.1 == "Authorization")).map Prod.snd

structure Request.Tells (request : Request) (number : Nat) (method : RpcMethod) (params : Json)
    (node : Endpoint × Option Credentials) : Prop where
  id : request.id = number
  rpcMethod : request.rpcMethod = method
  body : Json.parse? request.body = some (.object [("id",.ofNat number), ("jsonrpc",.string "1.0"),
    ("method",.string method.name), ("params",params)])
  endpoint : request.endpoint = node.1
  anonymous : node.2 = none → request.authorization = []
  authorized : ∀ credentials, node.2 = some credentials → ∃ token,
    request.authorization = ["Basic " ++ token] ∧ Base64.decodeChars token.toList =
      some (Hex.utf8 credentials.user ++ Hex.utf8 ":" ++ Hex.utf8 credentials.password)

namespace RpcClient

theorem Stands.tells {rpc : RpcClient} {made : Nat} {node : Endpoint × Option Credentials}
    (stands : rpc.Stands made node) (few : made + 1 < 2 ^ 64) (method : RpcMethod) (params : Json)
    (faithful : Json.Faithful 126 params) :
    (rpc.request method params).1.Tells (made + 1) method params node := by
  have headers : (rpc.request method params).1.authorization =
      (node.2.map Credentials.basicAuth).toList := by
    simp only [request,RpcClient.headers,Request.authorization,stands.authorization]
    cases node.2 <;> rfl
  refine ⟨stands.counted,rfl,?_,stands.endpoint,?_,?_⟩
  · have whole : Json.Faithful Json.maxDepth (envelope (made + 1) method params) := by
      apply Json.Faithful.ofMembers
      simp only [List.forall_mem_cons]
      exact ⟨.string _,.ofNat _ few,.string _,faithful,List.forall_mem_nil _⟩
    have read := whole.parse?_render
    rw [← stands.counted] at read ⊢
    exact read
  · intro absent
    rw [headers,absent]
    rfl
  · intro credentials present
    refine ⟨_,by rw [headers,present]; rfl,?_⟩
    rw [Base64.decodeChars_encode]
    simp only [Hex.utf8_eq,String.toList_append,List.flatMap_append]

/-- A client that is asked for fewer than 2^64 things makes one request for each of them. The requests
are numbered from one, and each tells the method and the parameters as they were given, to the node
that was named last and with the credentials that came with it. -/
theorem requests_encoded (endpoint : Endpoint) (credentials : Option Credentials)
    (calls : List Call) (few : calls.length < 2 ^ 64) :
    ((create endpoint credentials).run calls).1.length =
        (calls.filterMap Call.question?).length ∧
      ∀ before call after method params, calls = before ++ call :: after →
        call.question? = some (method,params) →
        ∃ request,
          ((create endpoint credentials).run calls).1[(before.filterMap Call.question?).length]? =
            some request ∧
          request.Tells ((before.filterMap Call.question?).length + 1) method params
            (latest endpoint credentials before) := by
  refine ⟨run_length _ calls,?_⟩
  intro before call after method params split asks
  subst split
  have stands := run_stands endpoint credentials before
  have made := perform_question ((create endpoint credentials).run before).2 call method params asks
  have earlier : (before.filterMap Call.question?).length ≤ before.length :=
    List.length_filterMap_le _ _
  rw [List.length_append,List.length_cons] at few
  rw [run_length] at stands
  refine ⟨_,?_,stands.tells (by omega) method params (question_faithful call method params asks)⟩
  rw [run_append,List.getElem?_append_right (by rw [run_length]),run_length,Nat.sub_self,run,made]
  rfl

/-- After a move the second request goes to the other node, with the credentials for it. -/
theorem requests_encoded_moved : ∃ request,
    ((create (.root "127.0.0.1" 10225 false) none).run [.getBlockTemplate,
      .reconfigure (.root "node.example" 443 true) (some ⟨"user","pa:ss"⟩),
      .submitBlock "00\"\n"]).1[1]? = some request ∧
    request.Tells 2 .submitBlock (.object [("hexdata",.string "00\"\n")])
      (.root "node.example" 443 true,some ⟨"user","pa:ss"⟩) :=
  (requests_encoded (.root "127.0.0.1" 10225 false) none [.getBlockTemplate,
    .reconfigure (.root "node.example" 443 true) (some ⟨"user","pa:ss"⟩),
    .submitBlock "00\"\n"] (by decide)).2
    [.getBlockTemplate,.reconfigure (.root "node.example" 443 true) (some ⟨"user","pa:ss"⟩)]
    (.submitBlock "00\"\n") [] _ _ rfl rfl

end RpcClient

end SoloMining
