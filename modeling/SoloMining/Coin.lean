import SoloMining.Error

/-! The coins that can be mined, and the scripts that their addresses stand for. -/
namespace SoloMining

abbrev Script := Bytes

def Script.toKeyHash (hash : Bytes) : Script := [0x76, 0xA9, 0x14] ++ hash ++ [0x88, 0xAC]

def Script.toScriptHash (hash : Bytes) : Script := [0xA9, 0x14] ++ hash ++ [0x87]

inductive Coin
  | raptoreum
  | bitcoin
deriving DecidableEq

namespace Coin

def all : List Coin := [.raptoreum, .bitcoin]

def name : Coin → String
  | .raptoreum => "raptoreum"
  | .bitcoin => "bitcoin"

def ticker : Coin → String
  | .raptoreum => "rtm"
  | .bitcoin => "btc"

def algorithm : Coin → String
  | .raptoreum => "ghostrider"
  | .bitcoin => "sha256d"

def keyHashVersions : Coin → List UInt8
  | .raptoreum => [60, 123]
  | .bitcoin => [0, 111]

def scriptHashVersions : Coin → List UInt8
  | .raptoreum => [16, 19]
  | .bitcoin => [5, 196]

def lowerAscii (s : String) : List Char := s.toList.map Char.toLower

def isCalled (coin : Coin) (text : String) : Bool :=
  lowerAscii coin.name == lowerAscii text || lowerAscii coin.ticker == lowerAscii text

def ofName (text : String) : Except Error Coin :=
  match all.find? (·.isCalled text) with
  | some coin => .ok coin
  | none => .error (.config (.unsupportedCoin text))

def scriptOf (coin : Coin) (version : UInt8) (hash : Bytes) : Option Script :=
  if coin.keyHashVersions.contains version then some (Script.toKeyHash hash)
  else if coin.scriptHashVersions.contains version then some (Script.toScriptHash hash)
  else none

def scriptForAddress (coin : Coin) (address : String) : Except Error Script :=
  match Base58.decodeCheck address with
  | .error fault => .error (.address (.badText address fault))
  | .ok payload =>
    match payload with
    | [] => .error (.address (.payloadLength address 0))
    | version :: hash =>
      if hash.length = 20 then
        match coin.scriptOf version hash with
        | some script => .ok script
        | none => .error (.address (.foreignVersion address version coin.name))
      else .error (.address (.payloadLength address payload.length))

end Coin

end SoloMining
