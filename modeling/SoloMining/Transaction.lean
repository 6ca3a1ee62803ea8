import SoloMining.Coin
import SoloMining.CompactSize

/-! Transactions and their serialization. Witnesses are written only when some input has one, behind
a marker and a flag; the name of a transaction never covers them. -/
namespace SoloMining

structure TxInput where
  previousHash : Bytes32
  previousIndex : UInt32
  scriptSig : Script
  sequence : UInt32
  witness : List Bytes
deriving DecidableEq

structure TxOutput where
  amount : UInt64
  script : Script
deriving DecidableEq

structure Transaction where
  version : UInt32
  inputs : List TxInput
  outputs : List TxOutput
  lockTime : UInt32
deriving DecidableEq

def encodeSized (bytes : Bytes) : Bytes := CompactSize.encode bytes.length ++ bytes

def encodeCounted {α : Type} (encode : α → Bytes) (items : List α) : Bytes :=
  CompactSize.encode items.length ++ items.flatMap encode

def TxInput.encode (input : TxInput) : Bytes :=
  input.previousHash.bytes ++ Bytes.le32 input.previousIndex ++ encodeSized input.scriptSig
    ++ Bytes.le32 input.sequence

def TxInput.encodeWitness (input : TxInput) : Bytes := encodeCounted encodeSized input.witness

def TxOutput.encode (output : TxOutput) : Bytes := Bytes.le64 output.amount ++ encodeSized output.script

namespace Transaction

def encodeBody (tx : Transaction) : Bytes :=
  encodeCounted TxInput.encode tx.inputs ++ encodeCounted TxOutput.encode tx.outputs

def encodeStripped (tx : Transaction) : Bytes :=
  Bytes.le32 tx.version ++ tx.encodeBody ++ Bytes.le32 tx.lockTime

def hasWitness (tx : Transaction) : Bool := tx.inputs.any fun input => !input.witness.isEmpty

def encode (tx : Transaction) : Bytes :=
  if tx.hasWitness then
    Bytes.le32 tx.version ++ [0, 1] ++ tx.encodeBody ++ tx.inputs.flatMap TxInput.encodeWitness
      ++ Bytes.le32 tx.lockTime
  else tx.encodeStripped

def txid (tx : Transaction) : Bytes32 := Sha256.double tx.encodeStripped

end Transaction

end SoloMining
