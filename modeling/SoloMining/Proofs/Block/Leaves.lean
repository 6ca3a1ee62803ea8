import SoloMining.Proofs.Block.Candidate
import SoloMining.Proofs.Transaction

/-! The names in the tree. A transaction that the template does not name is named by the hash of its
data, just as they are written. Its name proper never covers witnesses, so the two are the same only
for data without them. Nothing is assumed of the hash: where two byte strings with the same one could
do harm, it is said which they are. -/
namespace SoloMining

namespace Transaction

theorem encode_plain (tx : Transaction) (plain : tx.hasWitness = false) :
    tx.encode = tx.encodeStripped := by
  simp [encode,plain]

theorem length_encode_witnessed (tx : Transaction) (witnessed : tx.hasWitness = true) :
    tx.encodeStripped.length < tx.encode.length := by
  simp only [encode,witnessed,if_true,encodeStripped,List.length_append,List.length_cons]
  omega

/-- The hash of a written transaction is its name exactly if there are no witnesses, unless its two
layouts collide. -/
theorem double_encode_eq_txid (tx : Transaction) : Sha256.double tx.encode = tx.txid ↔
    tx.hasWitness = false ∨ Sha256.Collide tx.encode tx.encodeStripped := by
  unfold txid Sha256.Collide
  cases layout : tx.hasWitness with
  | false => simp [tx.encode_plain layout]
  | true =>
    have longer := tx.length_encode_witnessed layout
    have other : tx.encode ≠ tx.encodeStripped := by
      intro same
      rw [same] at longer
      exact Nat.lt_irrefl _ longer
    simp [other]

end Transaction

structure TemplateTransaction.HashedTo (tx : TemplateTransaction) (leaf : Bytes32) : Prop where
  hashed : ∃ data, Hex.decode tx.data = .ok data ∧ leaf = Sha256.double data
  legacy : ∀ transaction : Transaction, Hex.decode tx.data = .ok transaction.encodeStripped →
    leaf = transaction.txid
  written : ∀ transaction : Transaction, Hex.decode tx.data = .ok transaction.encode →
    (leaf = transaction.txid ↔ transaction.hasWitness = false ∨
      Sha256.Collide transaction.encode transaction.encodeStripped)

theorem TemplateTransaction.Enters.hashedTo {tx : TemplateTransaction} {entry : Bytes32 × Bytes}
    (enters : tx.Enters entry) (unnamed : tx.txid = none) : tx.HashedTo entry.1 := by
  obtain ⟨leaf,data⟩ := entry
  have read := enters.data
  have named := enters.named
  simp only [NamedBy,unnamed] at named
  refine ⟨⟨data,read,named⟩,?_,?_⟩
  · intro transaction stripped
    cases Except.ok.inj (read.symm.trans stripped)
    exact named
  · intro transaction written
    cases Except.ok.inj (read.symm.trans written)
    rw [named]
    exact transaction.double_encode_eq_txid

namespace Candidate

/-- In the tree of a candidate, a transaction without a name has the hash of its data. Other names do
not lead to the same root. -/
theorem unnamed_leaves (builder next : BlockBuilder) (t : Template) (candidate : Candidate)
    (built : builder.build t = (.ok candidate, next)) :
    ∃ entries, List.Forall₂ (fun tx entry => tx.Enters entry ∧
        (tx.txid = none → tx.HashedTo entry.1)) t.transactions entries ∧
      Merkle.root (candidate.coinbase.txid :: entries.map Prod.fst) =
        some candidate.header.merkleRoot ∧
      ∀ names : List Bytes32, names.length = t.transactions.length →
        Merkle.root (candidate.coinbase.txid :: names) = some candidate.header.merkleRoot →
        names = entries.map Prod.fst ∨
          ∃ first ∈ Merkle.hashed (candidate.coinbase.txid :: names),
            ∃ second ∈ Merkle.hashed (candidate.coinbase.txid :: entries.map Prod.fst),
              Sha256.Collide first second := by
  obtain ⟨fields,stated,_,made⟩ := BlockBuilder.build_eq_ok.mp built
  obtain ⟨coinbase,root,_,found,rfl⟩ := BlockBuilder.assemble_eq_ok.mp made
  refine ⟨fields.transactions,?_,found,?_⟩
  · exact stated.transactions.imp fun _ _ enters => ⟨enters,enters.hashedTo⟩
  · intro names count same
    have length : (coinbase.txid :: names).length =
        (coinbase.txid :: fields.transactions.map Prod.fst).length := by
      simp [count,stated.transactions.length_eq]
    rw [or_iff_not_imp_right]
    intro apart
    simp only [not_exists,not_and] at apart
    have whole := Merkle.root_injective _ _ length apart (same.trans found.symm)
    exact (List.cons.inj whole).2

namespace Sample

def spending : Transaction where
  version := 2
  inputs := [⟨.zero, 1, [], 0xFFFFFFFF, [[1]]⟩]
  outputs := [⟨1000, [0x51]⟩]
  lockTime := 0

/-- A template that commits to the witness and leaves the name out. -/
def unnamed : Template :=
  { template with
    transactions := [⟨Hex.encode spending.encode, none⟩]
    witnessCommitment :=
      some "6a24aa21a9edd4e855ecec02a2173f97d39b87378ebeb4fb75c58e66f1506c82cdc14fe4e60d" }

/-- The tree is not that over the own name of the transaction. -/
theorem unnamed_built : ∃ candidate, (builder.build unnamed).1 = .ok candidate ∧
    Merkle.root [candidate.coinbase.txid, spending.txid] ≠ some candidate.header.merkleRoot := by
  obtain ⟨candidate,built,apart⟩ := exists_ok (builder.build unnamed).1
    (fun candidate => decide (Merkle.root [candidate.coinbase.txid,spending.txid] ≠
      some candidate.header.merkleRoot)) true (by decide +kernel)
  exact ⟨candidate,built,of_decide_eq_true apart⟩

end Sample

theorem unnamed_leaves_witnessed : ∃ candidate next leaf,
    Sample.builder.build Sample.unnamed = (.ok candidate, next) ∧
      Merkle.root [candidate.coinbase.txid, leaf] = some candidate.header.merkleRoot ∧
      leaf ≠ Sample.spending.txid := by
  obtain ⟨candidate,built,apart⟩ := Sample.unnamed_built
  obtain ⟨entries,entered,root,_⟩ :=
    unnamed_leaves Sample.builder _ Sample.unnamed candidate (Prod.ext built rfl)
  obtain ⟨entry,_,_,⟨⟩,rfl⟩ := List.forall₂_cons_left_iff.mp entered
  refine ⟨candidate,_,entry.1,Prod.ext built rfl,root,?_⟩
  intro same
  rw [List.map_cons,List.map_nil,same] at root
  exact apart root

/-- The only transaction of the template has no name there, and it is not under its own name that it is
in the tree. -/
theorem witness_misnames_leaf : ∃ candidate next tx,
    Sample.builder.build Sample.unnamed = (.ok candidate, next) ∧
      Sample.unnamed.transactions = [tx] ∧ tx.txid = none ∧
      Hex.decode tx.data = .ok Sample.spending.encode ∧
      Merkle.root [candidate.coinbase.txid, Sample.spending.txid] ≠
        some candidate.header.merkleRoot := by
  obtain ⟨candidate,built,apart⟩ := Sample.unnamed_built
  exact ⟨candidate,_,_,Prod.ext built rfl,rfl,rfl,Hex.decode_encode _,apart⟩

end Candidate

end SoloMining
