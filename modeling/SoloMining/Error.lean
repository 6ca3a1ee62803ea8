import SoloMining.Base58
import SoloMining.Hex
import SoloMining.Json.Decoder
import SoloMining.Text.Radix
import SoloMining.Url.Fault

/-! Everything that can go wrong, by cause. A cause can also be reported by a text alone, which is
how transports hand over theirs. -/
namespace SoloMining

inductive ConfigFault
  | unsupportedCoin (name : String)
  | noMiningAddress (argument : String)
  | malformedAddress (argument : String)
  | addressRequired
  | badNodeUrl (fault : Url.Fault)
  | zeroSetting (name : String)
  | passwordWithoutUser
  | tagTooLong
  | reported (text : String)

def ConfigFault.message : ConfigFault → String
  | .unsupportedCoin name => "Unsupported coin: " ++ name
  | .noMiningAddress argument => "No mining address in " ++ Text.quoted argument
  | .malformedAddress argument => "Malformed address argument " ++ Text.quoted argument
  | .addressRequired => "A mining address is required, use --address"
  | .badNodeUrl fault => "Invalid node URL: " ++ fault.message
  | .zeroSetting name => name ++ " must be greater than 0"
  | .passwordWithoutUser => "RPC password given without a user"
  | .tagTooLong => "coinbase tag longer than 75 bytes"
  | .reported text => text

inductive TemplateFault
  | missing (field : String)
  | malformed (fault : Json.Fault)
  | badHex (field : String) (fault : Hex.Fault)
  | badHash (text : String) (fault : Hex.Fault)
  | badBits (text : String) (fault : Text.RadixFault)
  | heightOutOfRange (height : UInt64)
  | scriptSigTooLarge (size : Nat)
  | paymentsExceed (value : UInt64)
  | payloadWithCommitment
  | reported (text : String)

def TemplateFault.message : TemplateFault → String
  | .missing field => "missing " ++ field
  | .malformed fault => "malformed template: " ++ fault.message
  | .badHex field fault => "invalid " ++ field ++ ": " ++ fault.message
  | .badHash text fault => "Invalid hash " ++ Text.quoted text ++ ": " ++ fault.message
  | .badBits text fault => "invalid bits " ++ Text.quoted text ++ ": " ++ fault.message
  | .heightOutOfRange height => "height " ++ Text.decimal height.toNat ++ " out of range"
  | .scriptSigTooLarge size =>
    "coinbase script sig too large: " ++ Text.decimal size ++ " bytes"
  | .paymentsExceed value => "payments exceed coinbase value " ++ Text.decimal value.toNat
  | .payloadWithCommitment => "coinbase payload and witness commitment cannot be combined"
  | .reported text => text

inductive TargetFault
  | textLength (length : Nat)
  | byteLength (length : Nat)
  | badHex (fault : Hex.Fault)
  | reported (text : String)

def TargetFault.message : TargetFault → String
  | .textLength length =>
    "Invalid target hex length: expected 64 chars, got " ++ Text.decimal length
  | .byteLength length =>
    "Invalid target length: expected 32 bytes, got " ++ Text.decimal length
  | .badHex fault => "Invalid hex in target: " ++ fault.message
  | .reported text => text

inductive AddressFault
  | badText (address : String) (fault : Base58.Fault)
  | payloadLength (address : String) (length : Nat)
  | foreignVersion (address : String) (version : UInt8) (coin : String)
  | reported (text : String)

def AddressFault.message : AddressFault → String
  | .badText address fault => address ++ ": " ++ fault.message
  | .payloadLength address length =>
    address ++ ": expected 21 byte payload, got " ++ Text.decimal length
  | .foreignVersion address version coin =>
    address ++ ": version byte " ++ Text.decimal version.toNat ++ " is not a " ++ coin ++ " address"
  | .reported text => text

inductive SubmitRejection
  | notCurrent
  | partialShare
deriving DecidableEq

def SubmitRejection.message : SubmitRejection → String
  | .notCurrent => "job is not current"
  | .partialShare => "partial share"

inductive StateFault
  | generateUnconnected
  | stopped
  | noTransactions
  | reported (text : String)

def StateFault.message : StateFault → String
  | .generateUnconnected => "generate while unconnected"
  | .stopped => "event loop stopped"
  | .noTransactions => "empty transaction set"
  | .reported text => text

inductive IoFault
  | notFound
  | notUtf8
  | reported (text : String)

def IoFault.message : IoFault → String
  | .notFound => "No such file or directory (os error 2)"
  | .notUtf8 => "stream did not contain valid UTF-8"
  | .reported text => text

inductive NetworkFault
  | badMethod (method : String)
  | reported (text : String)

def NetworkFault.message : NetworkFault → String
  | .badMethod method => "Invalid HTTP method " ++ method ++ ": invalid HTTP method"
  | .reported text => text

inductive Error
  | config (fault : ConfigFault)
  | template (fault : TemplateFault)
  | target (fault : TargetFault)
  | address (fault : AddressFault)
  | rpc (code : Int) (message : String)
  | httpStatus (status : UInt16)
  | http (message : String)
  | network (fault : NetworkFault)
  | invalidState (fault : StateFault)
  | submit (rejection : SubmitRejection)
  | io (fault : IoFault)
  | json (fault : Json.Fault)
  | yaml

namespace Error

def category : Error → String
  | .config _ => "config"
  | .template _ => "template"
  | .target _ => "target"
  | .address _ => "address"
  | .rpc _ _ => "rpc"
  | .httpStatus _ => "http_status"
  | .http _ => "http"
  | .network _ => "network"
  | .invalidState _ => "invalid_state"
  | .submit _ => "submit"
  | .io _ => "io"
  | .json _ => "json"
  | .yaml => "yaml"

def message : Error → String
  | .config fault => "Configuration error: " ++ fault.message
  | .template fault => "Invalid block template: " ++ fault.message
  | .target fault => "Invalid target: " ++ fault.message
  | .address fault => "Invalid address: " ++ fault.message
  | .rpc code message => "RPC error " ++ Text.signed code ++ ": " ++ message
  | .httpStatus status => "Node replied with HTTP " ++ Text.decimal status.toNat
  | .http message => "HTTP request failed: " ++ message
  | .network fault => "Network error: " ++ fault.message
  | .invalidState fault => "Invalid state: " ++ fault.message
  | .submit rejection => "Result rejected: " ++ rejection.message
  | .io fault => "I/O error: " ++ fault.message
  | .json .malformed => "JSON error"
  | .json fault => "JSON error: " ++ fault.message
  | .yaml => "YAML error"

def isRetryable : Error → Bool
  | .http _ | .httpStatus _ | .network _ | .io _ => true
  | _ => false

end Error

end SoloMining
