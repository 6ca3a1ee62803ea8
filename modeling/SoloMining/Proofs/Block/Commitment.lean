import SoloMining.Proofs.Block.Acceptance

/-! What a header commits to. For a given number of transactions its Merkle root stands for one list of
names, each in its place, unless two nodes of the trees have the same hash. Nothing is assumed of the
hash: the nodes are named. -/
namespace SoloMining.Candidate

def Leaves (candidate : Candidate) (t : Template) (leaves : List Bytes32) : Prop :=
  ∃ entries, List.Forall₂ TemplateTransaction.Enters t.transactions entries ∧
    leaves = candidate.coinbase.txid :: entries.map Prod.fst

theorem exists_leaves (builder next : BlockBuilder) (t : Template) (candidate : Candidate)
    (built : builder.build t = (.ok candidate, next)) : ∃ leaves, candidate.Leaves t leaves ∧
      leaves.length = t.transactions.length + 1 ∧
      Merkle.root leaves = some candidate.header.merkleRoot := by
  obtain ⟨fields,stated,_,made⟩ := BlockBuilder.build_eq_ok.mp built
  obtain ⟨coinbase,root,_,found,rfl⟩ := BlockBuilder.assemble_eq_ok.mp made
  refine ⟨coinbase.txid :: fields.transactions.map Prod.fst,⟨_,stated.transactions,rfl⟩,?_,found⟩
  rw [List.length_cons,List.length_map,stated.transactions.length_eq]

/-- A root stands for the hashes it was made of, given their number, and a header for the names of its
transactions. -/
theorem merkleRoot_commits :
    (∀ first second : List Bytes32, first.length = second.length →
      Merkle.root first = Merkle.root second → first = second ∨ Merkle.Clash first second) ∧
    ∀ (builder next other after : BlockBuilder) (t u : Template) (candidate rival : Candidate),
      builder.build t = (.ok candidate, next) → other.build u = (.ok rival, after) →
      t.transactions.length = u.transactions.length →
      candidate.header.merkleRoot = rival.header.merkleRoot →
      ∃ leaves others, candidate.Leaves t leaves ∧ rival.Leaves u others ∧
        (leaves = others ∨ Merkle.Clash leaves others) := by
  refine ⟨Merkle.root_cases,?_⟩
  intro builder next other after t u candidate rival built rebuilt count same
  obtain ⟨leaves,ours,size,root⟩ := exists_leaves builder next t candidate built
  obtain ⟨others,theirs,width,top⟩ := exists_leaves other after u rival rebuilt
  refine ⟨leaves,others,ours,theirs,Merkle.root_cases leaves others ?_ ?_⟩
  · rw [size,width,count]
  · rw [root,top,same]

namespace Sample

/-- The transactions of the sample template a minute later, in letters of the other case. -/
def later : Template :=
  { template with
    currentTime := 1700000060
    transactions := [
      ⟨"0a0B", none⟩,
      ⟨"0C", some "BBBBBBBBBBBBBBBBBBBBBBBBBBBBBBBBBBBBBBBBBBBBBBBBBBBBBBBBBBBBBB01"⟩] }

private theorem recased {text other : String} {bytes : Bytes}
    (same : (Hex.decode other).toOption = (Hex.decode text).toOption)
    (read : Hex.decode text = .ok bytes) : Hex.decode other = .ok bytes := by
  rw [← toOption_eq_some] at read ⊢
  exact same.trans read

theorem later_stated {fields : TemplateFields} (stated : fields.StatedBy template) :
    fields.StatedBy later := by
  obtain ⟨first,_,unnamed,rest,whole⟩ := List.forall₂_cons_left_iff.mp stated.transactions
  obtain ⟨second,_,named,none,rfl⟩ := List.forall₂_cons_left_iff.mp rest
  cases List.forall₂_nil_left_iff.mp none
  refine { stated with transactions := ?_ }
  rw [whole]
  exact .cons ⟨unnamed.named,recased (by decide +kernel) unnamed.data⟩
    (.cons ⟨recased (by decide +kernel) named.named,recased (by decide +kernel) named.data⟩ .nil)

end Sample

theorem merkleRoot_commits_later : ∃ candidate next rival after leaves others,
    Sample.builder.build Sample.template = (.ok candidate, next) ∧
    Sample.builder.build Sample.later = (.ok rival, after) ∧
    candidate.header ≠ rival.header ∧ candidate.header.merkleRoot = rival.header.merkleRoot ∧
    candidate.Leaves Sample.template leaves ∧ rival.Leaves Sample.later others ∧
    (leaves = others ∨ Merkle.Clash leaves others) ∧
    ([.zero, .zero, .zero] = List.replicate 3 Bytes32.zero ∨
      Merkle.Clash [.zero, .zero, .zero] (List.replicate 3 .zero)) := by
  obtain ⟨candidate,built⟩ := (Sample.builder.exists_build _).mpr BlockBuilder.Sample.acceptable
  obtain ⟨fields,stated,moved,made⟩ := BlockBuilder.build_eq_ok.mp (Prod.ext built rfl)
  obtain ⟨time,dated⟩ := BlockBuilder.assemble_dated made
  obtain ⟨rival,remade,header⟩ := dated Sample.later
  have rebuilt := BlockBuilder.build_eq_ok.mpr ⟨fields,Sample.later_stated stated,moved,remade⟩
  have same : candidate.header.merkleRoot = rival.header.merkleRoot := by rw [header]
  obtain ⟨leaves,others,ours,theirs,equal⟩ := merkleRoot_commits.2 Sample.builder _ Sample.builder _
    Sample.template Sample.later candidate rival (Prod.ext built rfl) rebuilt rfl same
  refine ⟨candidate,_,rival,_,leaves,others,Prod.ext built rfl,rebuilt,?_,same,ours,
    theirs,equal,merkleRoot_commits.1 _ _ rfl rfl⟩
  intro headers
  have apart : Sample.later.currentTime ≠ Sample.template.currentTime := by decide
  rw [headers,header] at time
  exact apart time

end SoloMining.Candidate
