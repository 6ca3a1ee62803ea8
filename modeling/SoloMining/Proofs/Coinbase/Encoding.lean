import SoloMining.Coinbase
import SoloMining.Proofs.Fallible
import SoloMining.Proofs.Transaction

/-! The bytes of a coinbase. They read back as the one transaction that was planned, with a payload
left over behind it, and the name is the hash of what remains without the witness. -/
namespace SoloMining.CoinbasePlan

variable {plan : CoinbasePlan} {coinbase : Coinbase}

def trailer (plan : CoinbasePlan) : Bytes :=
  match plan.payload with
  | some payload => CompactSize.encode payload.length ++ payload
  | none => []

def finished (plan : CoinbasePlan) (script : Script) (left : UInt64) : Coinbase :=
  let payouts := plan.priorPayouts ++ [⟨plan.minerScript, left⟩]
  let tx := plan.transaction script payouts
  ⟨payouts, left, tx.encode ++ plan.trailer, Sha256.double (tx.encodeStripped ++ plan.trailer)⟩

theorem hasWitness_transaction (plan : CoinbasePlan) (script : Script) (payouts : List Payout) :
    (plan.transaction script payouts).hasWitness = plan.commitment.isSome := by
  cases given : plan.commitment <;> simp [Transaction.hasWitness,transaction,given]

theorem encode_uncommitted (script : Script) (payouts : List Payout)
    (uncommitted : plan.commitment = none) : (plan.transaction script payouts).encode =
      (plan.transaction script payouts).encodeStripped := by
  have plain := plan.hasWitness_transaction script payouts
  rw [uncommitted,Option.isSome_none] at plain
  rw [Transaction.encode,plain]
  rfl

theorem build_eq (separate : plan.payload = none ∨ plan.commitment = none) :
    plan.build = plan.scriptSig >>= fun script =>
      match remainder plan.value plan.priorPayouts with
      | none => .error (.template (.paymentsExceed plan.value))
      | some left => pure (plan.finished script left) := by
  cases paid : remainder plan.value plan.priorPayouts with
  | none =>
    have exclusive : (plan.payload.isSome && plan.commitment.isSome) = false := by
      cases separate with
      | inl unpaid => simp [unpaid]
      | inr uncommitted => simp [uncommitted]
    simp only [build,exclusive,paid,Bool.false_eq_true,if_false]
  | some left =>
    cases given : plan.payload with
    | none =>
      simp only [build,given,paid,finished,trailer,List.append_nil,Option.isSome_none,
        Bool.false_and,Bool.false_eq_true,if_false,Transaction.txid]
    | some payload =>
      have uncommitted : plan.commitment = none := by simpa [given] using separate
      simp only [build,given,paid,finished,trailer,uncommitted,Option.isSome_none,
        Bool.and_false,Bool.false_eq_true,if_false,encode_uncommitted _ _ uncommitted]
      rfl

theorem build_together (payload : plan.payload.isSome) (commitment : plan.commitment.isSome) :
    plan.build = .error (.template .payloadWithCommitment) := by
  simp only [build,payload,commitment,Bool.and_self,if_true]
  rfl

theorem build_eq_ok : plan.build = .ok coinbase ↔
    (plan.payload = none ∨ plan.commitment = none) ∧ ∃ script left,
      plan.scriptSig = .ok script ∧ remainder plan.value plan.priorPayouts = some left ∧
        coinbase = plan.finished script left := by
  by_cases separate : plan.payload = none ∨ plan.commitment = none
  · rw [build_eq separate,bind_eq_ok]
    simp only [separate,true_and]
    cases paid : remainder plan.value plan.priorPayouts with
    | none => simp
    | some left =>
      simp only [pure_eq_ok,Option.some.injEq]
      constructor
      · rintro ⟨script,made,rfl⟩
        exact ⟨script,left,made,rfl,rfl⟩
      · rintro ⟨script,_,made,rfl,rfl⟩
        exact ⟨script,made,rfl⟩
  · obtain ⟨payload,commitment⟩ := not_or.mp separate
    rw [build_together (Option.isSome_iff_ne_none.mpr payload)
      (Option.isSome_iff_ne_none.mpr commitment)]
    simp [separate]

def marker (plan : CoinbasePlan) : Bytes := if plan.commitment.isSome then [0x00, 0x01] else []

def witnessBytes (plan : CoinbasePlan) : Bytes :=
  if plan.commitment.isSome then 0x01 :: 0x20 :: List.replicate 32 0x00 else []

theorem encode_transaction (script : Script) (payouts : List Payout) :
    (plan.transaction script payouts).encode = Bytes.le32 plan.version ++ plan.marker
      ++ (plan.transaction script payouts).encodeBody ++ plan.witnessBytes ++ Bytes.le32 0 := by
  have layout := plan.hasWitness_transaction script payouts
  cases given : plan.commitment with
  | none =>
    simp only [encode_uncommitted script payouts given,marker,witnessBytes,given,
      Option.isSome_none,Bool.false_eq_true,if_false,List.append_nil]
    rfl
  | some commitment =>
    rw [given,Option.isSome_some] at layout
    have witness : (plan.transaction script payouts).inputs.flatMap TxInput.encodeWitness =
        plan.witnessBytes := by
      simp only [transaction,witnessBytes,given,Option.isSome_some,if_true]
      rfl
    rw [Transaction.encode,layout,if_pos rfl,witness]
    simp only [marker,given,Option.isSome_some,if_true]
    rfl

theorem encodeBody_transaction (plan : CoinbasePlan) (script : Script) (payouts : List Payout) :
    ∃ more, (plan.transaction script payouts).encodeBody = 0x01 :: 0x00 :: more := ⟨_,rfl⟩

theorem decode_finished (script : Script) (left : UInt64)
    (fits : (plan.finished script left).bytes.length < UInt64.size) :
    Transaction.decode (plan.finished script left).bytes =
      some (plan.transaction script (plan.finished script left).payouts,plan.trailer) := by
  simp only [finished,List.length_append] at fits ⊢
  apply Transaction.decode_encode
  · simp [transaction]
  · omega

structure Encodes (plan : CoinbasePlan) (coinbase : Coinbase) : Prop where
  /-- No bytes in memory are too many for the counts in front of them. -/
  read : coinbase.bytes.length < UInt64.size → ∃ script, plan.scriptSig = .ok script ∧
    Transaction.decode coinbase.bytes = some ({
      version := if plan.payload.isSome then 0x00050003 else 1
      inputs := [{
        previousHash := .zero
        previousIndex := 0xFFFFFFFF
        scriptSig := script
        sequence := 0xFFFFFFFF
        witness := if plan.commitment.isSome then [List.replicate 32 0] else [] }]
      outputs := coinbase.payouts.map (fun payout => ⟨payout.amount, payout.script⟩)
        ++ plan.commitment.toList.map fun script => ⟨0, script⟩
      lockTime := 0 }, plan.trailer)
  marked : (coinbase.bytes.drop 4).take 2 = [0x00, 0x01] ↔ plan.commitment.isSome
  named : ∃ body, coinbase.bytes = Bytes.le32 plan.version ++ plan.marker ++ body
      ++ plan.witnessBytes ++ Bytes.le32 0 ++ plan.trailer ∧
    coinbase.txid = Sha256.double (Bytes.le32 plan.version ++ body ++ Bytes.le32 0 ++ plan.trailer)
  whole : plan.commitment = none → coinbase.txid = Sha256.double coinbase.bytes

theorem marked_finished (script : Script) (left : UInt64) :
    ((plan.finished script left).bytes.drop 4).take 2 = [0x00, 0x01] ↔
      plan.commitment.isSome := by
  have version : (Bytes.le32 plan.version).length = 4 := Bytes.length_le32 _
  obtain ⟨more,body⟩ := plan.encodeBody_transaction script (plan.finished script left).payouts
  simp only [finished] at body ⊢
  rw [encode_transaction,body]
  simp only [List.append_assoc,List.drop_left' version]
  cases given : plan.commitment <;> simp [marker,given]

/-- A coinbase that is built reads back as it was planned, and is named without its witness. -/
theorem coinbase_reads_back (plan : CoinbasePlan) (coinbase : Coinbase)
    (built : plan.build = .ok coinbase) : plan.Encodes coinbase := by
  obtain ⟨separate,script,left,made,paid,rfl⟩ := build_eq_ok.mp built
  exact {
    read := fun fits => ⟨script,made,decode_finished script left fits⟩
    marked := marked_finished script left
    named := by
      refine ⟨(plan.transaction script (plan.finished script left).payouts).encodeBody,?_,rfl⟩
      change (plan.transaction script _).encode ++ plan.trailer = _
      rw [encode_transaction]
      rfl
    whole := by
      intro uncommitted
      simp only [finished,encode_uncommitted script _ uncommitted] }

namespace Sample

def committed : CoinbasePlan where
  height := 128
  value := 50
  minerScript := [0x51]
  founder := some ⟨[0x52], 7⟩
  smartnodes := [⟨[], 13⟩]
  payload := none
  commitment := some [0x6A, 0x00]
  tag := [0x2F]

def special : CoinbasePlan := { committed with payload := some [], commitment := none }

end Sample

theorem coinbase_reads_back_layouts : ∃ committed special,
    Sample.committed.build = .ok committed ∧ Sample.special.build = .ok special ∧
      committed.bytes.length = 132 ∧ special.bytes.length = 86 ∧
      Sample.committed.Encodes committed ∧ Sample.special.Encodes special := by
  obtain ⟨committed,built,size⟩ := exists_ok Sample.committed.build
    (fun coinbase => coinbase.bytes.length) 132 (by decide +kernel)
  obtain ⟨special,made,length⟩ := exists_ok Sample.special.build
    (fun coinbase => coinbase.bytes.length) 86 (by decide +kernel)
  exact ⟨committed,special,built,made,size,length,
    coinbase_reads_back Sample.committed committed built,
    coinbase_reads_back Sample.special special made⟩

end SoloMining.CoinbasePlan
