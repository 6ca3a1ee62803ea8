import SoloMining.Coin
import SoloMining.Json.Record
import SoloMining.Text.Blank

/-! Who is paid. The address argument has the form coin/dev:mining, where the coin and the dev
address may be left out; it is resolved to locking scripts once. -/
namespace SoloMining

structure MiningAddress where
  coin : Option String
  dev : Option String
  mining : String
deriving DecidableEq

namespace MiningAddress

def splitOptional (separator : Char) (cs : List Char) : Option (List Char) × List Char :=
  match Text.splitFirst separator cs with
  | some (before, after) => (some before, after)
  | none => (none, cs)

def ofChars (cs : List Char) : Except Error MiningAddress :=
  let trimmed := Text.trimChars cs
  let (coin, rest) := splitOptional '/' trimmed
  let (dev, mining) := splitOptional ':' rest
  if mining.isEmpty then .error (.config (.noMiningAddress (String.ofList trimmed)))
  else if coin = some [] ∨ dev = some [] then
    .error (.config (.malformedAddress (String.ofList trimmed)))
  else .ok ⟨coin.map String.ofList, dev.map String.ofList, String.ofList mining⟩

def parse (text : String) : Except Error MiningAddress := ofChars text.toList

def render (address : MiningAddress) : String :=
  let coin := match address.coin with
    | some coin => coin ++ "/"
    | none => ""
  let dev := match address.dev with
    | some dev => dev ++ ":"
    | none => ""
  coin ++ dev ++ address.mining

def toJson (address : MiningAddress) : Json :=
  .ofMembers [("coin", .ofOption .string address.coin), ("dev", .ofOption .string address.dev),
    ("mining", .string address.mining)]

def decoder : Json.Decoder MiningAddress :=
  (Json.RecordReader.start MiningAddress.mk
    |>.optional "coin" .text
    |>.optional "dev" .text
    |>.required "mining" .text).decoder "MiningAddress"

end MiningAddress

/-- The scripts that a coinbase can pay. Without a dev script there are no dev rounds. -/
structure Payee where
  coin : Coin
  mining : Script
  dev : Option Script
deriving DecidableEq

namespace Payee

def resolve (address : MiningAddress) (defaultCoin : Coin) : Except Error Payee := do
  let coin ← match address.coin with
    | some name => Coin.ofName name
    | none => pure defaultCoin
  let mining ← coin.scriptForAddress address.mining
  match address.dev with
  | some dev => do
    let script ← coin.scriptForAddress dev
    pure ⟨coin, mining, some script⟩
  | none => pure ⟨coin, mining, none⟩

def script (payee : Payee) (devRound : Bool) : Script :=
  match payee.dev, devRound with
  | some dev, true => dev
  | _, _ => payee.mining

end Payee

end SoloMining
