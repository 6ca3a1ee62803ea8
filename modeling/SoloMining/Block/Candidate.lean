import SoloMining.Block.Header
import SoloMining.Coinbase
import SoloMining.Merkle
import SoloMining.Payee
import SoloMining.Random.Dice
import SoloMining.Target

/-! Block candidates: a template completed by a coinbase transaction, ready to be hashed. Whether a
candidate pays the dev address is drawn once, after the fields of the template have been read. -/
namespace SoloMining

structure Reward where
  coin : Coin
  value : UInt64
deriving DecidableEq

structure Candidate where
  header : Header
  height : UInt64
  coinbase : Coinbase
  transactions : List Bytes
  target : Target
  /-- The threshold for backends as text, least significant byte first. -/
  threshold : String
  devRound : Bool
  reward : Reward
  blob : Bytes
deriving DecidableEq

namespace Candidate

def blobHex (candidate : Candidate) : String := Hex.encode candidate.blob

def blockBytes (candidate : Candidate) (nonce : Nonce) : Bytes :=
  candidate.blob.take Header.nonceOffset ++ nonce.bytes ++ candidate.blob.drop Header.size
    ++ CompactSize.encode (1 + candidate.transactions.length) ++ candidate.coinbase.bytes
    ++ candidate.transactions.flatten

def blockHex (candidate : Candidate) (nonce : Nonce) : String :=
  Hex.encode (candidate.blockBytes nonce)

end Candidate

structure TemplateFields where
  height : UInt64
  coinbaseValue : UInt64
  previousHash : Bytes32
  bits : UInt32
  target : Target
  threshold : String
  founder : Option Payout
  smartnodes : List Payout
  payload : Option Bytes
  commitment : Option Script
  transactions : List (Bytes32 × Bytes)

namespace TemplateFields

def optionalHex (field : String) : Option String → Except Error (Option Bytes)
  | none => .ok none
  | some text => if text.isEmpty then .ok none else (decodeField field text).map some

def optionalPayout : Option Payment → Except Error (Option Payout)
  | none => .ok none
  | some payment => (Payout.ofPayment payment).map some

def transaction (tx : TemplateTransaction) : Except Error (Bytes32 × Bytes) := do
  let data ← decodeField "transaction data" tx.data
  match tx.txid with
  | some text => do
    let txid ← hashOfDisplay text
    pure (txid, data)
  | none => pure (Sha256.double data, data)

def read (t : Template) : Except Error TemplateFields := do
  let height ← t.needHeight
  let coinbaseValue ← t.needCoinbaseValue
  let previousText ← t.needPreviousBlockHash
  let previousHash ← hashOfDisplay previousText
  let bits ← t.needBits
  let targetText ← t.needTarget
  let (target, threshold) ← Target.withThreshold targetText
  let founder ← optionalPayout t.activeFounder
  let smartnodes ← t.activeSmartnodes.mapM Payout.ofPayment
  let payload ← optionalHex "coinbase_payload" t.coinbasePayload
  let commitment ← optionalHex "default_witness_commitment" t.witnessCommitment
  let transactions ← t.transactions.mapM transaction
  pure { height, coinbaseValue, previousHash, bits, target, threshold, founder, smartnodes,
         payload, commitment, transactions }

end TemplateFields

structure BlockBuilder where
  payee : Payee
  devFeePercent : UInt8
  dice : Dice

namespace BlockBuilder

def create (payee : Payee) (devFeePercent : UInt8) (dice : Dice) : BlockBuilder :=
  ⟨payee, min devFeePercent 100, dice⟩

def defaultDevFee : UInt8 := 1

def coinbaseTag : Bytes := Hex.utf8 "/solo-rpc-miner/"

def drawDevRound (builder : BlockBuilder) : Bool × BlockBuilder :=
  if builder.payee.dev.isSome then
    let (rolled, dice) := builder.dice.roll 100
    (rolled < builder.devFeePercent.toNat, { builder with dice })
  else (false, builder)

def plan (fields : TemplateFields) (minerScript : Script) : CoinbasePlan where
  height := fields.height
  value := fields.coinbaseValue
  minerScript := minerScript
  founder := fields.founder
  smartnodes := fields.smartnodes
  payload := fields.payload
  commitment := fields.commitment
  tag := coinbaseTag

def merkleRoot (txids : List Bytes32) : Except Error Bytes32 :=
  match Merkle.root txids with
  | some root => .ok root
  | none => .error (.invalidState .noTransactions)

def assemble (payee : Payee) (t : Template) (fields : TemplateFields) (devRound : Bool) :
    Except Error Candidate := do
  let coinbase ← (plan fields (payee.script devRound)).build
  let root ← merkleRoot (coinbase.txid :: fields.transactions.map Prod.fst)
  let header : Header :=
    ⟨t.version, fields.previousHash, root, t.currentTime, fields.bits, ⟨0⟩⟩
  pure {
    header
    height := fields.height
    coinbase
    transactions := fields.transactions.map Prod.snd
    target := fields.target
    threshold := fields.threshold
    devRound
    reward := ⟨payee.coin, coinbase.minerReward⟩
    blob := header.bytes }

def build (builder : BlockBuilder) (t : Template) : Except Error Candidate × BlockBuilder :=
  match TemplateFields.read t with
  | .error e => (.error e, builder)
  | .ok fields =>
    let (devRound, next) := builder.drawDevRound
    (assemble next.payee t fields devRound, next)

end BlockBuilder

end SoloMining
