import SoloMining.Base64
import SoloMining.Hex
import SoloMining.Json.Record
import SoloMining.Text.Radix

/-! Where a node listens, and how a client proves who it is. -/
namespace SoloMining

structure Endpoint where
  host : String
  port : UInt16
  tls : Bool
  path : String
deriving DecidableEq

namespace Endpoint

def root (host : String) (port : UInt16) (tls : Bool) : Endpoint := ⟨host, port, tls, "/"⟩

def scheme (endpoint : Endpoint) : String := if endpoint.tls then "https" else "http"

def url (endpoint : Endpoint) : String :=
  endpoint.scheme ++ "://" ++ endpoint.host ++ ":" ++ Text.decimal endpoint.port.toNat
    ++ endpoint.path

def toJson (endpoint : Endpoint) : Json :=
  .ofMembers [("host", .string endpoint.host), ("port", .ofNat endpoint.port.toNat),
    ("tls", .bool endpoint.tls), ("path", .string endpoint.path)]

def decoder : Json.Decoder Endpoint :=
  (Json.RecordReader.start Endpoint.mk
    |>.required "host" .text
    |>.required "port" .uint16
    |>.required "tls" .bool
    |>.required "path" .text).decoder "Endpoint"

end Endpoint

structure Credentials where
  user : String
  password : String
deriving DecidableEq

namespace Credentials

def basicAuth (credentials : Credentials) : String :=
  "Basic " ++ Base64.encode (Hex.utf8 (credentials.user ++ ":" ++ credentials.password))

def describe (credentials : Credentials) : String :=
  "Credentials \x7b user: " ++ Text.quoted credentials.user
    ++ ", password: \"<redacted>\" \x7d"

def toJson (credentials : Credentials) : Json :=
  .ofMembers [("user", .string credentials.user), ("password", .string credentials.password)]

def decoder : Json.Decoder Credentials :=
  (Json.RecordReader.start Credentials.mk
    |>.required "user" .text
    |>.required "password" .text).decoder "Credentials"

end Credentials

end SoloMining
