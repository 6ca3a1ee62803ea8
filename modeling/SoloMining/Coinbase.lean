import SoloMining.Template
import SoloMining.Transaction

/-! The coinbase transaction: it creates the value of a block and shares it out, first to the
founder, then to the smartnodes, and what is left to the miner. -/
namespace SoloMining

structure Payout where
  script : Script
  amount : UInt64
deriving DecidableEq

def Payout.ofPayment (payment : Payment) : Except Error Payout := do
  let script ← decodeField "payment script" payment.script
  pure ⟨script, payment.amount⟩

structure CoinbasePlan where
  height : UInt64
  value : UInt64
  minerScript : Script
  founder : Option Payout
  smartnodes : List Payout
  /-- Data of a special transaction, written behind the transaction itself. -/
  payload : Option Bytes
  /-- Script of an output without value that commits to the witnesses of the block. -/
  commitment : Option Script
  tag : Bytes
deriving DecidableEq

structure Coinbase where
  payouts : List Payout
  minerReward : UInt64
  bytes : Bytes
  txid : Bytes32
deriving DecidableEq

namespace CoinbasePlan

/-- The bytes of a positive number, least significant first, with a clear highest bit. -/
def scriptNumber (n : Nat) : Bytes :=
  if n < 128 then [UInt8.ofNat n]
  else if n < 256 then [UInt8.ofNat n, 0]
  else UInt8.ofNat n :: scriptNumber (n / 256)
termination_by n
decreasing_by omega

def pushNumber (n : Nat) : Script :=
  if n = 0 then [0]
  else if n ≤ 16 then [UInt8.ofNat (80 + n)]
  else UInt8.ofNat (scriptNumber n).length :: scriptNumber n

def maxScriptSig : Nat := 100

def atLeastTwo (script : Script) : Script := if script.length < 2 then script ++ [0] else script

def scriptSig (plan : CoinbasePlan) : Except Error Script :=
  if UInt64.size / 2 ≤ plan.height.toNat then .error (.template (.heightOutOfRange plan.height))
  else if 75 < plan.tag.length then .error (.config .tagTooLong)
  else
    let tagPush := if plan.tag.isEmpty then [] else UInt8.ofNat plan.tag.length :: plan.tag
    let script := atLeastTwo (pushNumber plan.height.toNat ++ tagPush)
    if maxScriptSig < script.length then .error (.template (.scriptSigTooLarge script.length))
    else .ok script

def remainder (value : UInt64) : List Payout → Option UInt64
  | [] => some value
  | payout :: rest => if payout.amount ≤ value then remainder (value - payout.amount) rest else none

def priorPayouts (plan : CoinbasePlan) : List Payout := plan.founder.toList ++ plan.smartnodes

def version (plan : CoinbasePlan) : UInt32 := if plan.payload.isSome then 0x00050003 else 1

def transaction (plan : CoinbasePlan) (script : Script) (payouts : List Payout) : Transaction where
  version := plan.version
  inputs := [{
    previousHash := .zero
    previousIndex := 0xFFFFFFFF
    scriptSig := script
    sequence := 0xFFFFFFFF
    witness := if plan.commitment.isSome then [List.replicate 32 0] else [] }]
  outputs := payouts.map (fun payout => ⟨payout.amount, payout.script⟩)
    ++ plan.commitment.toList.map fun script => ⟨0, script⟩
  lockTime := 0

/-- A payload is part of what is hashed, a witness is not. -/
def build (plan : CoinbasePlan) : Except Error Coinbase := do
  if plan.payload.isSome && plan.commitment.isSome then
    .error (.template .payloadWithCommitment)
  let script ← plan.scriptSig
  match remainder plan.value plan.priorPayouts with
  | none => .error (.template (.paymentsExceed plan.value))
  | some left =>
    let payouts := plan.priorPayouts ++ [⟨plan.minerScript, left⟩]
    let tx := plan.transaction script payouts
    match plan.payload with
    | some payload =>
      let bytes := tx.encode ++ encodeSized payload
      pure ⟨payouts, left, bytes, Sha256.double bytes⟩
    | none => pure ⟨payouts, left, tx.encode, tx.txid⟩

end CoinbasePlan

end SoloMining
