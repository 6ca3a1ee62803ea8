/-! Why a node address is no URL. -/
namespace SoloMining.Url

inductive Fault
  | emptyHost
  | badPort
  | badIpv4
  | badIpv6
  | badDomain
deriving DecidableEq

def Fault.message : Fault → String
  | .emptyHost => "empty host"
  | .badPort => "invalid port number"
  | .badIpv4 => "invalid IPv4 address"
  | .badIpv6 => "invalid IPv6 address"
  | .badDomain => "invalid international domain name"

end SoloMining.Url
