import SoloMining.Hash
import SoloMining.Json.Record

/-! The block template of a node: everything a block needs except the coinbase transaction. What a
block cannot do without may still be absent from a template, and is then reported by its name. -/
namespace SoloMining

structure Payment where
  payee : Option String
  script : String
  amount : UInt64
deriving DecidableEq

/-- A transaction to be put into the block; without its name the name is computed. -/
structure TemplateTransaction where
  data : String
  txid : Option String
deriving DecidableEq

structure Template where
  version : Int32
  previousBlockHash : Option String
  height : Option UInt64
  bits : Option String
  currentTime : UInt32
  coinbaseValue : Option UInt64
  target : Option String
  transactions : List TemplateTransaction
  founder : Option Payment
  founderStarted : Bool
  smartnodes : List Payment
  smartnodesStarted : Bool
  coinbasePayload : Option String
  witnessCommitment : Option String
deriving DecidableEq

namespace Payment

def toJson (payment : Payment) : Json :=
  .ofMembers [("payee", .ofOption .string payment.payee), ("script", .string payment.script),
    ("amount", .ofNat payment.amount.toNat)]

def decoder : Json.Decoder Payment :=
  (Json.RecordReader.start Payment.mk
    |>.defaulted "payee" Json.Decoder.text.optional none
    |>.required "script" .text
    |>.required "amount" .uint64).decoder "Payment"

end Payment

namespace TemplateTransaction

def toJson (tx : TemplateTransaction) : Json :=
  .ofMembers [("data", .string tx.data), ("txid", .ofOption .string tx.txid)]

def decoder : Json.Decoder TemplateTransaction :=
  (Json.RecordReader.start TemplateTransaction.mk
    |>.required "data" .text
    |>.defaulted "txid" Json.Decoder.text.optional none).decoder "TemplateTransaction"

end TemplateTransaction

namespace Template

def toJson (t : Template) : Json :=
  .ofMembers [
    ("version", .ofInt t.version.toInt),
    ("previousblockhash", .ofOption .string t.previousBlockHash),
    ("height", .ofOption (fun n => .ofNat n.toNat) t.height),
    ("bits", .ofOption .string t.bits),
    ("curtime", .ofNat t.currentTime.toNat),
    ("coinbasevalue", .ofOption (fun n => .ofNat n.toNat) t.coinbaseValue),
    ("target", .ofOption .string t.target),
    ("transactions", .array (t.transactions.map TemplateTransaction.toJson)),
    ("founder", .ofOption Payment.toJson t.founder),
    ("founder_payments_started", .bool t.founderStarted),
    ("smartnode", .array (t.smartnodes.map Payment.toJson)),
    ("smartnode_payments_started", .bool t.smartnodesStarted),
    ("coinbase_payload", .ofOption .string t.coinbasePayload),
    ("default_witness_commitment", .ofOption .string t.witnessCommitment)]

/-- Some nodes call smartnodes masternodes. -/
def reader : Json.RecordReader Template :=
  Json.RecordReader.start Template.mk
    |>.defaulted "version" .int32 1
    |>.optional "previousblockhash" .text
    |>.optional "height" .uint64
    |>.optional "bits" .text
    |>.defaulted "curtime" .uint32 0
    |>.optional "coinbasevalue" .uint64
    |>.optional "target" .text
    |>.defaulted "transactions" (.list TemplateTransaction.decoder) []
    |>.defaulted "founder" Payment.decoder.optional none
    |>.defaulted "founder_payments_started" .bool false
    |>.defaulted "smartnode" (.list Payment.decoder) [] ["masternode"]
    |>.defaulted "smartnode_payments_started" .bool false ["masternode_payments_started"]
    |>.defaulted "coinbase_payload" Json.Decoder.text.optional none
    |>.defaulted "default_witness_commitment" Json.Decoder.text.optional none

def decoder : Json.Decoder Template := reader.decoder "BlockTemplate"

def ofJson (j : Json) : Except Error Template :=
  match Json.decodeValue decoder j with
  | .ok t => .ok t
  | .error fault => .error (.template (.malformed fault))

def need {α : Type} (field : String) : Option α → Except Error α
  | some a => .ok a
  | none => .error (.template (.missing field))

def needHeight (t : Template) : Except Error UInt64 := need "height" t.height

def needCoinbaseValue (t : Template) : Except Error UInt64 := need "coinbasevalue" t.coinbaseValue

def needPreviousBlockHash (t : Template) : Except Error String :=
  need "previousblockhash" t.previousBlockHash

def needTarget (t : Template) : Except Error String := need "target" t.target

def needBits (t : Template) : Except Error UInt32 := do
  let text ← need "bits" t.bits
  match Text.readNatural 16 UInt32.size text.toList with
  | .ok n => pure (UInt32.ofNat n)
  | .error fault => .error (.template (.badBits text fault))

def activeFounder (t : Template) : Option Payment := if t.founderStarted then t.founder else none

def activeSmartnodes (t : Template) : List Payment := if t.smartnodesStarted then t.smartnodes else []

end Template

end SoloMining
