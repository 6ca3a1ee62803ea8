import SoloMining.Proofs.Block.Candidate
import SoloMining.Proofs.Coinbase.Payouts

/-! Which templates make a block. Everything that a block needs has to be there and has to be readable,
and the payments that have started have to fit into the coinbase. Who is paid the rest, and what is
drawn for it, decides nothing, and neither do payments that have not started. -/
namespace SoloMining

namespace Template

def duePayments (t : Template) : List Payment :=
  (if t.founderStarted then t.founder.toList else [])
    ++ if t.smartnodesStarted then t.smartnodes else []

structure Readable (t : Template) : Prop where
  height : ∃ height, t.height = some height
  coinbaseValue : ∃ value, t.coinbaseValue = some value
  previousHash : ∃ text, t.previousBlockHash = some text ∧ Hex.SpellsWord text
  bits : ∃ text, t.bits = some text ∧ Text.HexNumeral UInt32.size text.toList
  target : ∃ text, t.target = some text ∧ Hex.SpellsWord text
  scripts : ∀ payment ∈ t.duePayments, Hex.SpellsBytes payment.script
  payload : ∀ text, t.coinbasePayload = some text → text = "" ∨ Hex.SpellsBytes text
  commitment : ∀ text, t.witnessCommitment = some text → text = "" ∨ Hex.SpellsBytes text
  transactions : ∀ tx ∈ t.transactions, Hex.SpellsBytes tx.data ∧
    ∀ text, tx.txid = some text → Hex.SpellsWord text

structure Acceptable (t : Template) : Prop extends t.Readable where
  inRange : ∀ height, t.height = some height → height.toNat < 2 ^ 63
  covered : ∀ value, t.coinbaseValue = some value →
    (t.duePayments.map fun payment => payment.amount.toNat).sum ≤ value.toNat
  separate : ¬ ((∃ text, t.coinbasePayload = some text ∧ text ≠ "") ∧
    ∃ text, t.witnessCommitment = some text ∧ text ≠ "")

theorem exists_needBits (t : Template) : (∃ bits, t.needBits = .ok bits) ↔
    ∃ text, t.bits = some text ∧ Text.HexNumeral UInt32.size text.toList := by
  simp only [needBits,bind_eq_ok,need_eq_ok,← Text.exists_readNatural UInt32.size _ (by decide)]
  constructor
  · rintro ⟨bits,text,present,read⟩
    refine ⟨text,present,?_⟩
    cases number : Text.readNatural 16 UInt32.size text.toList with
    | ok n => exact ⟨n,rfl⟩
    | error fault => simp only [number,reduceCtorEq] at read
  · rintro ⟨text,present,n,number⟩
    exact ⟨UInt32.ofNat n,text,present,by simp only [number]; rfl⟩

end Template

theorem Payout.ofPayment_eq_ok (payment : Payment) (payout : Payout) :
    ofPayment payment = .ok payout ↔
      Hex.decode payment.script = .ok payout.script ∧ payment.amount = payout.amount := by
  obtain ⟨script,amount⟩ := payout
  simp only [ofPayment,bind_eq_ok,pure_eq_ok,decodeField_eq_ok,Payout.mk.injEq]
  constructor
  · rintro ⟨_,read,rfl,same⟩
    exact ⟨read,same⟩
  · rintro ⟨read,same⟩
    exact ⟨script,read,rfl,same⟩

theorem Payout.exists_ofPayment (payment : Payment) :
    (∃ payout, ofPayment payment = .ok payout) ↔ Hex.SpellsBytes payment.script := by
  simp only [ofPayment_eq_ok,← Hex.exists_decode]
  constructor
  · rintro ⟨payout,read,_⟩
    exact ⟨payout.script,read⟩
  · rintro ⟨script,read⟩
    exact ⟨⟨script,payment.amount⟩,read,rfl⟩

theorem Payout.total_ofPayments (payments : List Payment) (payouts : List Payout)
    (read : List.Forall₂ (fun payment payout => ofPayment payment = .ok payout) payments payouts) :
    total payouts = (payments.map fun payment => payment.amount.toNat).sum := by
  induction read with
  | nil => rfl
  | cons first rest ih =>
    rw [total_cons,ih,List.map_cons,List.sum_cons,((ofPayment_eq_ok _ _).mp first).2]

theorem TemplateTransaction.exists_enters (tx : TemplateTransaction) :
    (∃ entry, tx.Enters entry) ↔ Hex.SpellsBytes tx.data ∧
      ∀ text, tx.txid = some text → Hex.SpellsWord text := by
  simp only [← Hex.exists_decode,← Hex.exists_decode_word]
  constructor
  · rintro ⟨⟨id,data⟩,named,read⟩
    refine ⟨⟨data,read⟩,?_⟩
    intro text stated
    simp only [NamedBy,stated] at named
    exact ⟨id,named⟩
  · rintro ⟨⟨data,read⟩,named⟩
    cases stated : tx.txid with
    | none => exact ⟨(Sha256.double data,data),by simp [NamedBy,stated],read⟩
    | some text =>
      obtain ⟨id,name⟩ := named text stated
      exact ⟨(id,data),by simpa [NamedBy,stated] using name,read⟩

namespace TemplateFields

variable {t : Template} {fields : TemplateFields}

theorem optionalPayout_eq_ok (stated : Option Payment) (payout : Option Payout) :
    optionalPayout stated = .ok payout ↔
      List.Forall₂ (fun payment payout => Payout.ofPayment payment = .ok payout)
        stated.toList payout.toList := by
  cases stated with
  | none => cases payout <;> simp [optionalPayout]
  | some payment =>
    cases read : Payout.ofPayment payment <;> cases payout <;>
      simp [optionalPayout,read,Except.map]

theorem exists_optionalPayout (stated : Option Payment)
    (readable : ∀ payment, stated = some payment →
      ∃ payout, Payout.ofPayment payment = .ok payout) :
    ∃ payout, optionalPayout stated = .ok payout := by
  cases stated with
  | none => exact ⟨none,rfl⟩
  | some payment =>
    obtain ⟨payout,read⟩ := readable payment rfl
    exact ⟨some payout,by rw [optionalPayout,read]; rfl⟩

theorem exists_optionalHex (field : String) (stated : Option String) :
    (∃ bytes, optionalHex field stated = .ok bytes) ↔
      ∀ text, stated = some text → text = "" ∨ Hex.SpellsBytes text := by
  cases stated with
  | none => simp [optionalHex]
  | some text =>
    simp only [optionalHex,Option.some.injEq,forall_eq',← Hex.exists_decode,
      ← decodeField_eq_ok field,String.isEmpty_iff]
    split
    next empty => simp [empty]
    next written =>
      cases read : decodeField field text <;> simp [Except.map,written]

theorem optionalHex_eq_none (field : String) (stated : Option String) (bytes : Option Bytes)
    (read : optionalHex field stated = .ok bytes) :
    bytes = none ↔ ¬ ∃ text, stated = some text ∧ text ≠ "" := by
  cases stated with
  | none =>
    cases Except.ok.inj read
    simp
  | some text =>
    simp only [optionalHex,String.isEmpty_iff] at read
    split at read
    next empty =>
      cases Except.ok.inj read
      simp [empty]
    next written =>
      cases found : decodeField field text with
      | error fault => simp [found,Except.map] at read
      | ok data =>
        simp only [found,Except.map,Except.ok.injEq] at read
        simp [← read,written]

theorem duePayments_eq (t : Template) :
    t.duePayments = t.activeFounder.toList ++ t.activeSmartnodes := by
  cases started : t.founderStarted <;>
    simp [Template.duePayments,Template.activeFounder,Template.activeSmartnodes,started]

theorem exists_stated (t : Template) : (∃ fields : TemplateFields, fields.StatedBy t) ↔
    t.Readable := by
  constructor
  · rintro ⟨fields,stated⟩
    obtain ⟨hash,tip,hashRead⟩ := stated.previousHash
    obtain ⟨goal,aim,goalRead⟩ := stated.target
    exact {
      height := ⟨_,stated.height⟩
      coinbaseValue := ⟨_,stated.coinbaseValue⟩
      previousHash := ⟨hash,tip,(Hex.exists_decode_word hash).mp ⟨_,hashRead⟩⟩
      bits := t.exists_needBits.mp ⟨_,stated.bits⟩
      target := ⟨goal,aim,(Target.exists_parse goal).mp ⟨_,goalRead⟩⟩
      scripts := by
        intro payment due
        rw [duePayments_eq,List.mem_append] at due
        rw [← Payout.exists_ofPayment]
        rcases due with founder | smartnode
        · exact (exists_forall₂ _ _).mp ⟨_,(optionalPayout_eq_ok _ _).mp stated.founder⟩ _ founder
        · exact (exists_forall₂ _ _).mp ⟨_,stated.smartnodes⟩ _ smartnode
      payload := (exists_optionalHex _ _).mp ⟨_,stated.payload⟩
      commitment := (exists_optionalHex _ _).mp ⟨_,stated.commitment⟩
      transactions := by
        intro tx member
        rw [← TemplateTransaction.exists_enters]
        exact (exists_forall₂ _ _).mp ⟨_,stated.transactions⟩ tx member }
  · intro readable
    obtain ⟨height,tall⟩ := readable.height
    obtain ⟨value,worth⟩ := readable.coinbaseValue
    obtain ⟨hash,tip,spelled⟩ := readable.previousHash
    obtain ⟨previousHash,hashRead⟩ := (Hex.exists_decode_word hash).mpr spelled
    obtain ⟨bits,bitsRead⟩ := t.exists_needBits.mpr readable.bits
    obtain ⟨goal,aim,aimed⟩ := readable.target
    obtain ⟨target,goalRead⟩ := (Target.exists_parse goal).mpr aimed
    have payable : ∀ payment ∈ t.activeFounder.toList ++ t.activeSmartnodes,
        ∃ payout, Payout.ofPayment payment = .ok payout := by
      intro payment due
      rw [← duePayments_eq] at due
      exact (Payout.exists_ofPayment payment).mpr (readable.scripts payment due)
    obtain ⟨founder,founderRead⟩ := exists_optionalPayout t.activeFounder fun payment given =>
      payable payment (List.mem_append_left _ (by simp [given]))
    obtain ⟨smartnodes,smartnodesRead⟩ := (exists_forall₂ _ t.activeSmartnodes).mpr
      fun payment member => payable payment (List.mem_append_right _ member)
    obtain ⟨payload,payloadRead⟩ :=
      (exists_optionalHex "coinbase_payload" t.coinbasePayload).mpr readable.payload
    obtain ⟨commitment,commitmentRead⟩ :=
      (exists_optionalHex "default_witness_commitment" t.witnessCommitment).mpr
        readable.commitment
    obtain ⟨transactions,entered⟩ := (exists_forall₂ _ t.transactions).mpr fun tx member =>
      tx.exists_enters.mpr (readable.transactions tx member)
    exact ⟨⟨height,value,previousHash,bits,target,target.loosen.hexLE,founder,smartnodes,payload,
      commitment,transactions⟩,tall,worth,⟨hash,tip,hashRead⟩,bitsRead,⟨goal,aim,goalRead⟩,rfl,
      founderRead,smartnodesRead,payloadRead,commitmentRead,entered⟩

theorem StatedBy.priorPayouts (stated : fields.StatedBy t) :
    List.Forall₂ (fun payment payout => Payout.ofPayment payment = .ok payout) t.duePayments
      (fields.founder.toList ++ fields.smartnodes) := by
  rw [duePayments_eq]
  exact List.rel_append ((optionalPayout_eq_ok _ _).mp stated.founder) stated.smartnodes

theorem StatedBy.separate (stated : fields.StatedBy t) :
    (fields.payload = none ∨ fields.commitment = none) ↔
      ¬ ((∃ text, t.coinbasePayload = some text ∧ text ≠ "") ∧
        ∃ text, t.witnessCommitment = some text ∧ text ≠ "") := by
  rw [optionalHex_eq_none _ _ _ stated.payload,optionalHex_eq_none _ _ _ stated.commitment,
    not_and_or]

end TemplateFields

namespace BlockBuilder

variable {builder : BlockBuilder} {t : Template} {fields : TemplateFields}

/-- Whatever the miner's script is, the plan for a coinbase is carried out under the same conditions. -/
theorem exists_build_plan (stated : fields.StatedBy t) (script : Script) :
    (∃ coinbase, (plan fields script).build = .ok coinbase) ↔ t.Acceptable := by
  have readable := (TemplateFields.exists_stated t).mp ⟨fields,stated⟩
  have tag : coinbaseTag.length ≤ 75 := by decide +kernel
  have owed : (plan fields script).owed =
      (t.duePayments.map fun payment => payment.amount.toNat).sum := by
    rw [← CoinbasePlan.total_priorPayouts]
    exact Payout.total_ofPayments _ _ stated.priorPayouts
  rw [CoinbasePlan.exists_build,owed]
  constructor
  · rintro ⟨separate,⟨inRange,_⟩,covered⟩
    refine ⟨readable,?_,?_,stated.separate.mp separate⟩
    · intro height given
      cases Option.some.inj (stated.height.symm.trans given)
      exact inRange
    · intro value given
      cases Option.some.inj (stated.coinbaseValue.symm.trans given)
      exact covered
  · intro acceptable
    exact ⟨stated.separate.mpr acceptable.separate,⟨acceptable.inRange _ stated.height,tag⟩,
      acceptable.covered _ stated.coinbaseValue⟩

theorem exists_assemble (payee : Payee) (devRound : Bool) :
    (∃ candidate, assemble payee t fields devRound = .ok candidate) ↔
      ∃ coinbase, (plan fields (payee.script devRound)).build = .ok coinbase := by
  simp only [assemble_eq_ok]
  constructor
  · rintro ⟨_,coinbase,_,built,_⟩
    exact ⟨coinbase,built⟩
  · rintro ⟨coinbase,built⟩
    obtain ⟨root,found⟩ := Merkle.root_cons coinbase.txid (fields.transactions.map Prod.fst)
    exact ⟨_,coinbase,root,built,found,rfl⟩

theorem build_undue (t : Template) (founder : Option Payment) (smartnodes : List Payment)
    (founderDue : t.founderStarted = true → founder = t.founder)
    (smartnodesDue : t.smartnodesStarted = true → smartnodes = t.smartnodes)
    (builder : BlockBuilder) :
    builder.build { t with founder, smartnodes } = builder.build t := by
  have sameFounder : { t with founder, smartnodes }.activeFounder = t.activeFounder := by
    unfold Template.activeFounder
    split
    next started => exact founderDue started
    next => rfl
  have sameSmartnodes : { t with founder, smartnodes }.activeSmartnodes = t.activeSmartnodes := by
    unfold Template.activeSmartnodes
    split
    next started => exact smartnodesDue started
    next => rfl
  have read : TemplateFields.read { t with founder, smartnodes } = TemplateFields.read t := by
    simp only [TemplateFields.read,sameFounder,sameSmartnodes]
    rfl
  simp only [build,read]
  rfl

theorem exists_build (builder : BlockBuilder) (t : Template) :
    (∃ candidate, (builder.build t).1 = .ok candidate) ↔ t.Acceptable := by
  constructor
  · rintro ⟨candidate,built⟩
    obtain ⟨fields,stated,_,made⟩ := build_eq_ok.mp (Prod.ext built rfl)
    exact (exists_build_plan stated _).mp ((exists_assemble _ _).mp ⟨candidate,made⟩)
  · intro acceptable
    obtain ⟨fields,stated⟩ := (TemplateFields.exists_stated t).mpr acceptable.toReadable
    obtain ⟨candidate,made⟩ := (exists_assemble _ builder.drawDevRound.1).mpr
      ((exists_build_plan stated _).mpr acceptable)
    exact ⟨candidate,congrArg Prod.fst (build_eq_ok.mpr ⟨fields,stated,rfl,made⟩)⟩

theorem Sample.acceptable : Candidate.Sample.template.Acceptable := by
  rw [← exists_build Candidate.Sample.builder]
  obtain ⟨candidate,built,_⟩ := exists_ok
    (Candidate.Sample.builder.build Candidate.Sample.template).1 Candidate.height 100
    (by decide +kernel)
  exact ⟨candidate,built⟩

/-- A block is made exactly of the acceptable templates, for every payee, every fee and every draw. -/
theorem builds_acceptable_templates (t : Template) :
    (∀ builder : BlockBuilder,
      (∃ candidate, (builder.build t).1 = .ok candidate) ↔ t.Acceptable) ∧
    ∀ (founder : Option Payment) (smartnodes : List Payment),
      (t.founderStarted = true → founder = t.founder) →
      (t.smartnodesStarted = true → smartnodes = t.smartnodes) →
      ∀ builder : BlockBuilder,
        builder.build { t with founder, smartnodes } = builder.build t := by
  constructor
  · intro builder
    exact builder.exists_build t
  · exact build_undue t

/-- What its founder asks for is more than there is, and counts once its payments have started. -/
def Sample.greedy : Template :=
  { Candidate.Sample.template with founder := some ⟨none, "0", 18446744073709551615⟩ }

theorem builds_acceptable_templates_greedy :
    Sample.greedy.Acceptable ∧ ¬ { Sample.greedy with founderStarted := true }.Acceptable := by
  obtain ⟨_,undue⟩ := builds_acceptable_templates Candidate.Sample.template
  obtain ⟨greedy,_⟩ := builds_acceptable_templates Sample.greedy
  have built := (exists_build Candidate.Sample.builder _).mpr Sample.acceptable
  rw [← undue Sample.greedy.founder [] nofun nofun] at built
  refine ⟨(greedy Candidate.Sample.builder).mp built,?_⟩
  intro acceptable
  have covered := acceptable.covered 5000000000 rfl
  revert covered
  decide

end BlockBuilder

end SoloMining
