import SoloMining.Error
import SoloMining.Rpc.Endpoint
import SoloMining.Url.Authority

/-! What a transport checks before it sends anything. -/
namespace SoloMining

/-- Whom to connect to: what follows the scheme of the URL, read as web addresses are. -/
def Endpoint.authority (endpoint : Endpoint) : Except Url.Fault Url.Authority :=
  let place := "//" ++ endpoint.host ++ ":" ++ Text.decimal endpoint.port.toNat ++ endpoint.path
  Url.Authority.parse place.toList

namespace Transport

def isTokenChar (c : Char) : Bool := c.isAlphanum || "!#$%&'*+-.^_\x60|~".contains c

def isMethod (text : String) : Bool := !text.isEmpty && text.toList.all isTokenChar

def unbuildable : String := "builder error"

def prepare (method : String) (endpoint : Endpoint) : Except Error Url.Authority :=
  if isMethod method then
    match endpoint.authority with
    | .ok place => .ok place
    | .error _ => .error (.http unbuildable)
  else .error (.network (.badMethod method))

end Transport

end SoloMining
