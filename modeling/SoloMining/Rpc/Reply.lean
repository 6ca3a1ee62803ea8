import SoloMining.Error
import SoloMining.Json.Record

/-! Answers of a node, and what they say about a submitted block. -/
namespace SoloMining

structure Response where
  status : UInt16
  body : String
deriving DecidableEq

structure Reply where
  id : Option UInt64
  result : Json
  failure : Json

namespace Reply

def decoder : Json.Decoder Reply :=
  (Json.RecordReader.start Reply.mk
    |>.defaulted "id" Json.Decoder.uint64.optional none
    |>.defaulted "result" .any .null
    |>.defaulted "error" .any .null).decoder "RpcReply"

def error? (reply : Reply) : Option Error :=
  match reply.failure with
  | .null => none
  | .object members =>
    let failure := Json.object members
    let code := ((failure.member? "code").bind Json.int64?).getD (-1)
    let message := ((failure.member? "message").bind Json.text?).getD "unknown error"
    some (.rpc code message)
  | .string message => some (.rpc (-1) message)
  | other => some (.rpc (-1) other.render)

def outcome (reply : Reply) : Except Error Json :=
  match reply.error? with
  | some e => .error e
  | none => .ok reply.result

/-- Reads the body of a response. A status other than 200 is a failure, told by the node's own
error if the body carries one. -/
def ofResponse (response : Response) : Except Error Reply :=
  match response.status == 200, Json.decodeText decoder response.body with
  | true, .ok reply => .ok reply
  | true, .error fault => .error (.json fault)
  | false, .ok reply => .error (reply.error?.getD (.httpStatus response.status))
  | false, .error _ => .error (.httpStatus response.status)

end Reply

inductive ShareStatus
  | accepted
  | partialShare
  | rejected (reason : String)
deriving DecidableEq

namespace ShareStatus

def reason? : ShareStatus → Option String
  | .accepted => none
  | .partialShare => some "partial"
  | .rejected reason => some reason

def ofResult : Json → ShareStatus
  | .null => .accepted
  | .string s =>
    if s = "" ∨ s = "accepted" ∨ s = "inconclusive" then .accepted else .rejected s
  | other => .rejected other.render

end ShareStatus

end SoloMining
