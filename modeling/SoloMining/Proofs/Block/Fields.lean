import SoloMining.Block.Candidate
import SoloMining.Proofs.Target

/-! What a template says. Its fields are read exactly if each of them is there and can be read, and
the transactions are read one by one in the order of the template. -/
namespace SoloMining

theorem Template.need_eq_ok {α : Type} (field : String) (stated : Option α) (value : α) :
    need field stated = .ok value ↔ stated = some value := by
  cases stated with
  | none => simp [need]
  | some found => simp [need]

def Template.TargetNumber (t : Template) (number : Nat) : Prop :=
  ∃ text, t.target = some text ∧ Text.readDigits 16 (2 ^ 256) 0 text.toList = .ok number

theorem Template.TargetNumber.unique (t : Template) (first second : Nat)
    (one : t.TargetNumber first) (other : t.TargetNumber second) : first = second := by
  obtain ⟨text,present,read⟩ := one
  obtain ⟨again,same,number⟩ := other
  cases Option.some.inj (present.symm.trans same)
  exact Except.ok.inj (read.symm.trans number)

/-- The name of a transaction in the tree: the stated one, and otherwise its double hash. -/
def TemplateTransaction.NamedBy (tx : TemplateTransaction) (id : Bytes32) (data : Bytes) : Prop :=
  match tx.txid with
  | some text => Hex.decode text = .ok id.bytes.reverse
  | none => id = Sha256.double data

structure TemplateTransaction.Enters (tx : TemplateTransaction) (entry : Bytes32 × Bytes) :
    Prop where
  named : tx.NamedBy entry.1 entry.2
  data : Hex.decode tx.data = .ok entry.2

namespace TemplateFields

theorem transaction_eq_ok (tx : TemplateTransaction) (entry : Bytes32 × Bytes) :
    transaction tx = .ok entry ↔ tx.Enters entry := by
  obtain ⟨id,data⟩ := entry
  cases stated : tx.txid with
  | none =>
    simp only [transaction,stated,bind_eq_ok,pure_eq_ok,decodeField_eq_ok,Prod.mk.injEq]
    constructor
    · rintro ⟨found,read,rfl,rfl⟩
      exact ⟨by simp [TemplateTransaction.NamedBy,stated],read⟩
    · rintro ⟨named,read⟩
      simp only [TemplateTransaction.NamedBy,stated] at named
      exact ⟨data,read,named.symm,rfl⟩
  | some text =>
    simp only [transaction,stated,bind_eq_ok,pure_eq_ok,decodeField_eq_ok,hashOfDisplay_eq_ok,
      Prod.mk.injEq]
    constructor
    · rintro ⟨found,read,word,name,rfl,rfl⟩
      exact ⟨by simpa [TemplateTransaction.NamedBy,stated] using name,read⟩
    · rintro ⟨named,read⟩
      simp only [TemplateTransaction.NamedBy,stated] at named
      exact ⟨data,read,id,named,rfl,rfl⟩

structure StatedBy (fields : TemplateFields) (t : Template) : Prop where
  height : t.height = some fields.height
  coinbaseValue : t.coinbaseValue = some fields.coinbaseValue
  previousHash : ∃ text, t.previousBlockHash = some text ∧
    Hex.decode text = .ok fields.previousHash.bytes.reverse
  bits : t.needBits = .ok fields.bits
  target : ∃ text, t.target = some text ∧ Target.parse text = .ok fields.target
  threshold : fields.target.loosen.hexLE = fields.threshold
  founder : optionalPayout t.activeFounder = .ok fields.founder
  smartnodes : List.Forall₂ (fun payment payout => Payout.ofPayment payment = .ok payout)
    t.activeSmartnodes fields.smartnodes
  payload : optionalHex "coinbase_payload" t.coinbasePayload = .ok fields.payload
  commitment : optionalHex "default_witness_commitment" t.witnessCommitment = .ok fields.commitment
  transactions : List.Forall₂ TemplateTransaction.Enters t.transactions fields.transactions

theorem read_eq_ok (t : Template) (fields : TemplateFields) :
    read t = .ok fields ↔ fields.StatedBy t := by
  simp only [read,Template.needHeight,Template.needCoinbaseValue,Template.needPreviousBlockHash,
    Template.needTarget,bind_eq_ok,pure_eq_ok,Template.need_eq_ok,hashOfDisplay_eq_ok,
    mapM_eq_ok,transaction_eq_ok]
  constructor
  · rintro ⟨_,height,_,value,text,previous,_,hash,_,bits,targetText,target,⟨_,_⟩,goal,
      _,founder,_,smartnodes,_,payload,_,commitment,_,transactions,rfl⟩
    obtain ⟨parsed,loose⟩ := (Target.withThreshold_eq_ok _ _ _).mp goal
    exact ⟨height,value,⟨text,previous,hash⟩,bits,⟨targetText,target,parsed⟩,loose,founder,
      smartnodes,payload,commitment,transactions⟩
  · rintro ⟨height,value,⟨text,previous,hash⟩,bits,⟨targetText,target,parsed⟩,loose,founder,
      smartnodes,payload,commitment,transactions⟩
    have goal := (Target.withThreshold_eq_ok _ _ _).mpr ⟨parsed,loose⟩
    exact ⟨_,height,_,value,text,previous,_,hash,_,bits,targetText,target,_,goal,_,founder,_,
      smartnodes,_,payload,_,commitment,_,transactions,rfl⟩

theorem StatedBy.needHeight {fields : TemplateFields} {t : Template} (stated : fields.StatedBy t) :
    t.needHeight = .ok fields.height := by
  rw [Template.needHeight,Template.need_eq_ok]
  exact stated.height

theorem StatedBy.needTip {fields : TemplateFields} {t : Template} (stated : fields.StatedBy t) :
    ∃ text, t.needPreviousBlockHash = .ok text := by
  obtain ⟨text,present,_⟩ := stated.previousHash
  refine ⟨text,?_⟩
  rw [Template.needPreviousBlockHash,Template.need_eq_ok]
  exact present

theorem StatedBy.targetNumber (fields : TemplateFields) (t : Template)
    (stated : fields.StatedBy t) : t.TargetNumber fields.target.toNat := by
  obtain ⟨text,present,parsed⟩ := stated.target
  exact ⟨text,present,Target.readDigits_parse text fields.target parsed⟩

end TemplateFields

end SoloMining
