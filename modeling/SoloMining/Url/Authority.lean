import SoloMining.Url.Domain
import SoloMining.Url.Fault
import SoloMining.Url.Ipv4
import SoloMining.Url.Ipv6

/-! The authority of a web address: whom to connect to, and at which port. -/
namespace SoloMining.Url

inductive Host
  | domain (name : String)
  | ipv4 (address : Nat)
  | ipv6 (pieces : List Nat)
deriving DecidableEq

structure Authority where
  host : Host
  port : Option Nat
deriving DecidableEq

def Host.parse (cs : List Char) : Except Fault Host :=
  match cs with
  | [] => .error .emptyHost
  | '[' :: rest =>
    if rest.getLast? = some ']' then
      match parseIpv6? rest.dropLast with
      | some pieces => .ok (.ipv6 pieces)
      | none => .error .badIpv6
    else .error .badIpv6
  | _ =>
    match domain? cs with
    | none => .error .badDomain
    | some [] => .error .emptyHost
    | some name =>
      if endsInNumber name then
        match parseIpv4? name with
        | some address => .ok (.ipv4 address)
        | none => .error .badIpv4
      else .ok (.domain (String.ofList name))

def parsePort (cs : List Char) : Except Fault (Option Nat) :=
  if cs.isEmpty then .ok none
  else
    match Text.readDigits 10 65536 0 cs with
    | .ok port => .ok (some port)
    | .error _ => .error .badPort

def splitPort (bracketed : Bool) : List Char → List Char × List Char
  | [] => ([], [])
  | c :: rest =>
    if c = ':' ∧ !bracketed then ([], c :: rest)
    else
      let inside := if c = '[' then true else if c = ']' then false else bracketed
      let (host, port) := splitPort inside rest
      (c :: host, port)

def isDropped (c : Char) : Bool := c == '\t' || c == '\n' || c == '\r'

def isSlash (c : Char) : Bool := c == '/' || c == '\\'

def endsAuthority (c : Char) : Bool := isSlash c || c == '?' || c == '#'

/-- Reads what follows the scheme of a web address. A user before an at sign is skipped, and so is
everything behind the authority. -/
def Authority.parse (cs : List Char) : Except Fault Authority := do
  let text := ((cs.filter (!isDropped ·)).dropWhile isSlash).takeWhile (!endsAuthority ·)
  let place := match Text.splitLast '@' text with
    | some (_, place) => place
    | none => text
  let (hostText, portText) := splitPort false place
  let host ← Host.parse hostText
  let port ← parsePort (portText.drop 1)
  pure ⟨host, port⟩

end SoloMining.Url
