import SoloMining.Config.Basic
import SoloMining.Rpc.Transport

/-! What a configuration must fulfil before a client runs with it. How the URL of the node is read is a
parameter; any reader of web addresses will do. -/
namespace SoloMining.Config

def requireNonzero (name : String) (n : UInt64) : Except Error Unit :=
  if n = 0 then .error (.config (.zeroSetting name)) else .ok ()

def validateUrl (authority : Endpoint → Except Url.Fault Url.Authority) (c : Config) :
    Except Error Url.Authority :=
  match authority c.endpoint with
  | .ok authority => .ok authority
  | .error fault => .error (.config (.badNodeUrl fault))

def validatePayee (c : Config) : Except Error Payee := do
  let coin ← Coin.ofName c.coin
  let address ← c.miningAddress
  Payee.resolve address coin

def validateBy (authority : Endpoint → Except Url.Fault Url.Authority) (c : Config) :
    Except Error Unit := do
  let _ ← c.validateUrl authority
  let _ ← c.validatePayee
  requireNonzero "Poll interval" c.pollInterval
  requireNonzero "Job timeout" c.jobTimeout
  requireNonzero "Retry pause" c.retryPause
  requireNonzero "HTTP timeout" c.httpTimeout
  if c.password.isSome && c.user.isNone then .error (.config .passwordWithoutUser) else .ok ()

def validate (c : Config) : Except Error Unit := c.validateBy Endpoint.authority

end SoloMining.Config
