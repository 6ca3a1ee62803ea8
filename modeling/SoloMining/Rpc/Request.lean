import SoloMining.Rpc.Endpoint

/-! Calls of a node, numbered from one. The number is the identifier in the call and in its answer. -/
namespace SoloMining

inductive RpcMethod
  | getBlockTemplate
  | submitBlock
  | generateToAddress
  | other (name : String)
deriving DecidableEq

def RpcMethod.name : RpcMethod → String
  | .getBlockTemplate => "getblocktemplate"
  | .submitBlock => "submitblock"
  | .generateToAddress => "generatetoaddress"
  | .other name => name

structure Request where
  id : Nat
  rpcMethod : RpcMethod
  httpMethod : String
  endpoint : Endpoint
  body : String
  headers : List (String × String)
deriving DecidableEq

structure RpcClient where
  endpoint : Endpoint
  authorization : Option String
  /-- Counted without a bound; 64 bits hold the numbers of fewer than 2^64 requests. -/
  nextId : Nat
deriving DecidableEq

namespace RpcClient

def create (endpoint : Endpoint) (credentials : Option Credentials) : RpcClient :=
  ⟨endpoint, credentials.map Credentials.basicAuth, 1⟩

/-- Turns to another node. Numbers go on counting, so no late answer fits a new call. -/
def reconfigure (rpc : RpcClient) (endpoint : Endpoint) (credentials : Option Credentials) :
    RpcClient :=
  ⟨endpoint, credentials.map Credentials.basicAuth, rpc.nextId⟩

def envelope (id : Nat) (method : RpcMethod) (params : Json) : Json :=
  .ofMembers [("jsonrpc", .string "1.0"), ("id", .ofNat id), ("method", .string method.name),
    ("params", params)]

def headers (authorization : Option String) : List (String × String) :=
  ("Content-Type", "application/json")
    :: authorization.toList.map fun value => ("Authorization", value)

def request (rpc : RpcClient) (method : RpcMethod) (params : Json) : Request × RpcClient :=
  ({ id := rpc.nextId
     rpcMethod := method
     httpMethod := "POST"
     endpoint := rpc.endpoint
     body := (envelope rpc.nextId method params).render
     headers := headers rpc.authorization },
   { rpc with nextId := rpc.nextId + 1 })

def templateParams : Json := .array [.ofMembers [("rules", .array [.string "segwit"])]]

def getBlockTemplate (rpc : RpcClient) : Request × RpcClient :=
  rpc.request .getBlockTemplate templateParams

def submitBlock (rpc : RpcClient) (blockHex : String) : Request × RpcClient :=
  rpc.request .submitBlock (.ofMembers [("hexdata", .string blockHex)])

def generateToAddress (rpc : RpcClient) (blocks : UInt32) (address : String) :
    Request × RpcClient :=
  rpc.request .generateToAddress
    (.ofMembers [("nblocks", .ofNat blocks.toNat), ("address", .string address)])

end RpcClient

end SoloMining
