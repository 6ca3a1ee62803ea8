import SoloMining.Proofs.Block.Fields
import SoloMining.Proofs.Block.Header
import SoloMining.Proofs.CompactSize
import SoloMining.Proofs.Merkle

/-! Blocks as they are sent. The block of a nonce begins with the header that was hashed under that
nonce, and its transactions stand in the order in which their names are in the tree. -/
namespace SoloMining

namespace BlockBuilder

variable {builder next : BlockBuilder} {payee : Payee} {t : Template} {fields : TemplateFields}
  {devRound : Bool} {candidate : Candidate}

theorem merkleRoot_eq_ok (txids : List Bytes32) (root : Bytes32) :
    merkleRoot txids = .ok root ↔ Merkle.root txids = some root := by
  unfold merkleRoot
  cases Merkle.root txids <;> simp

theorem assemble_eq_ok : assemble payee t fields devRound = .ok candidate ↔
    ∃ coinbase root, (plan fields (payee.script devRound)).build = .ok coinbase ∧
      Merkle.root (coinbase.txid :: fields.transactions.map Prod.fst) = some root ∧
      let header : Header := ⟨t.version,fields.previousHash,root,t.currentTime,fields.bits,⟨0⟩⟩
      candidate = ⟨header,fields.height,coinbase,fields.transactions.map Prod.snd,fields.target,
        fields.threshold,devRound,⟨payee.coin,coinbase.minerReward⟩,header.bytes⟩ := by
  simp only [assemble,bind_eq_ok,pure_eq_ok,merkleRoot_eq_ok]
  constructor
  · rintro ⟨coinbase,built,root,found,rfl⟩
    exact ⟨coinbase,root,built,found,rfl⟩
  · rintro ⟨coinbase,root,built,found,rfl⟩
    exact ⟨coinbase,built,root,found,rfl⟩

/-- The coinbase alone makes the transactions of a block not empty, so only the coinbase can fail. -/
theorem assemble_eq_error (fault : Error) : assemble payee t fields devRound = .error fault ↔
    (plan fields (payee.script devRound)).build = .error fault := by
  unfold assemble
  cases built : (plan fields (payee.script devRound)).build with
  | error other => simp [bind,Except.bind]
  | ok coinbase =>
    obtain ⟨root,found⟩ := Merkle.root_cons coinbase.txid (fields.transactions.map Prod.fst)
    have rooted := (merkleRoot_eq_ok _ root).mpr found
    simp [rooted,bind,Except.bind,pure,Except.pure]

/-- Besides its fields, only the version and the time of a template enter a candidate. -/
theorem assemble_dated (made : assemble payee t fields devRound = .ok candidate) :
    candidate.header.time = t.currentTime ∧ ∀ other : Template, ∃ rival,
      assemble payee other fields devRound = .ok rival ∧ rival.header =
        { candidate.header with version := other.version, time := other.currentTime } := by
  obtain ⟨coinbase,root,built,found,rfl⟩ := assemble_eq_ok.mp made
  refine ⟨rfl,?_⟩
  intro other
  exact ⟨_,assemble_eq_ok.mpr ⟨coinbase,root,built,found,rfl⟩,rfl⟩

theorem build_eq_ok : builder.build t = (.ok candidate,next) ↔
    ∃ fields : TemplateFields, fields.StatedBy t ∧ next = builder.drawDevRound.2 ∧
      assemble next.payee t fields builder.drawDevRound.1 = .ok candidate := by
  rw [build]
  constructor
  · intro built
    split at built
    next => simp at built
    next fields read =>
      simp only [Prod.mk.injEq] at built
      obtain ⟨made,rfl⟩ := built
      exact ⟨fields,(TemplateFields.read_eq_ok t fields).mp read,rfl,made⟩
  · rintro ⟨fields,stated,rfl,made⟩
    rw [(TemplateFields.read_eq_ok t fields).mpr stated]
    simp only [made]

theorem build_targetNumber (built : (builder.build t).1 = .ok candidate) :
    t.TargetNumber candidate.target.toNat := by
  obtain ⟨fields,stated,_,made⟩ := build_eq_ok.mp (Prod.ext built rfl)
  obtain ⟨coinbase,root,_,_,rfl⟩ := assemble_eq_ok.mp made
  exact stated.targetNumber

end BlockBuilder

namespace Candidate

def readBlock (text : String) : Option (Header × Nat × Bytes) := do
  let bytes ← (Hex.decode text).toOption
  let (header, bytes) ← Header.decode bytes
  let (count, body) ← CompactSize.decode bytes
  pure (header, count, body)

structure Completes (candidate : Candidate) (t : Template) (nonce : Nonce) : Prop where
  layout : candidate.blockBytes nonce = { candidate.header with nonce }.bytes
    ++ CompactSize.encode (1 + t.transactions.length) ++ candidate.coinbase.bytes
    ++ candidate.transactions.flatten
  header : candidate.header.version = t.version ∧ candidate.header.time = t.currentTime ∧
    t.needBits = .ok candidate.header.bits
  previousHash : ∃ text, t.previousBlockHash = some text ∧
    Hex.decode text = .ok candidate.header.previousHash.bytes.reverse
  /-- One list gives both the names in the tree and the data in the block. -/
  tree : ∃ entries, List.Forall₂ TemplateTransaction.Enters t.transactions entries ∧
    candidate.transactions = entries.map Prod.snd ∧
    Merkle.root (candidate.coinbase.txid :: entries.map Prod.fst) =
      some candidate.header.merkleRoot
  hashed : candidate.blob.length = Header.size ∧
    (candidate.blockBytes nonce).take Header.size =
      candidate.blob.take Header.nonceOffset ++ nonce.bytes ∧
    nonce.bytes.length = 4 ∧ Bytes.toNatLE nonce.bytes = nonce.value.toNat
  written : Hex.decode (candidate.blockHex nonce) = .ok (candidate.blockBytes nonce)
  /-- Beyond 64 bits there is no form for the count; no list in memory is that long. -/
  recovered : 1 + t.transactions.length < UInt64.size →
    readBlock (candidate.blockHex nonce) = some ({ candidate.header with nonce },
      1 + t.transactions.length, candidate.coinbase.bytes ++ candidate.transactions.flatten)

namespace Sample

def builder : BlockBuilder := .create ⟨.raptoreum, [0x51], none⟩ 1 (.ofSeed 0)

def template : Template where
  version := 2
  previousBlockHash := some "00000000000000000007878ec04bb2b2e12317804810f4c26033585b3f81ffaa"
  height := some 100
  bits := some "1d00ffff"
  currentTime := 1700000000
  coinbaseValue := some 5000000000
  target := some "00000000ffff0000000000000000000000000000000000000000000000000000"
  transactions := [
    ⟨"0A0b", none⟩,
    ⟨"0c", some "bbbbbbbbbbbbbbbbbbbbbbbbbbbbbbbbbbbbbbbbbbbbbbbbbbbbbbbbbbbbbb01"⟩]
  founder := none
  founderStarted := false
  smartnodes := []
  smartnodesStarted := false
  coinbasePayload := none
  witnessCommitment := none

end Sample

end Candidate

end SoloMining
