import SoloMining.Proofs.Coinbase.Encoding
import SoloMining.Proofs.Coinbase.ScriptSig

/-! The value of a coinbase is shared out in full. What is owed before the miner is paid is counted
without a bound, so amounts that together exceed 64 bits are refused like any others that exceed the
value. -/
namespace SoloMining

def Payout.total (payouts : List Payout) : Nat :=
  (payouts.map fun payout => payout.amount.toNat).sum

theorem Payout.total_cons (payout : Payout) (rest : List Payout) :
    total (payout :: rest) = payout.amount.toNat + total rest := by
  simp [total]

theorem Payout.total_append (first second : List Payout) :
    total (first ++ second) = total first + total second := by
  simp [total]

namespace CoinbasePlan

def owed (plan : CoinbasePlan) : Nat :=
  (plan.founder.elim 0 fun founder => founder.amount.toNat)
    + (plan.smartnodes.map fun smartnode => smartnode.amount.toNat).sum

theorem total_priorPayouts (plan : CoinbasePlan) : Payout.total plan.priorPayouts = plan.owed := by
  rw [priorPayouts,Payout.total_append]
  cases given : plan.founder <;> simp [Payout.total,owed,given]

theorem remainder_eq_some (value left : UInt64) (payouts : List Payout) :
    remainder value payouts = some left ↔
      Payout.total payouts + left.toNat = value.toNat := by
  induction payouts generalizing value with
  | nil =>
    simp only [remainder,Payout.total,List.map_nil,List.sum_nil,Nat.zero_add,Option.some.injEq]
    exact eq_comm.trans UInt64.toNat_inj.symm
  | cons payout rest ih =>
    rw [remainder,Payout.total_cons]
    split
    next covered =>
      -- Only here is subtracted, so the 64-bit difference is that of the numbers.
      have difference := UInt64.toNat_sub_of_le _ _ covered
      have least := UInt64.le_iff_toNat_le.mp covered
      rw [ih,difference]
      omega
    next short =>
      have most := UInt64.lt_iff_toNat_lt.mp (UInt64.not_le.mp short)
      simp only [reduceCtorEq,false_iff]
      omega

theorem exists_remainder (value : UInt64) (payouts : List Payout) :
    (∃ left, remainder value payouts = some left) ↔ Payout.total payouts ≤ value.toNat := by
  constructor
  · rintro ⟨left,paid⟩
    rw [remainder_eq_some] at paid
    omega
  · intro covered
    have bound : value.toNat < UInt64.size := value.toNat_lt
    have room : value.toNat - Payout.total payouts < UInt64.size := by omega
    refine ⟨UInt64.ofNat (value.toNat - Payout.total payouts),?_⟩
    rw [remainder_eq_some,UInt64.toNat_ofNat_of_lt' room]
    omega

/-- Nothing else can keep a coinbase from being made. -/
theorem exists_build (plan : CoinbasePlan) : (∃ coinbase, plan.build = .ok coinbase) ↔
    (plan.payload = none ∨ plan.commitment = none) ∧
      (plan.height.toNat < 2 ^ 63 ∧ plan.tag.length ≤ 75) ∧ plan.owed ≤ plan.value.toNat := by
  rw [← total_priorPayouts,← exists_remainder]
  simp only [build_eq_ok]
  constructor
  · rintro ⟨_,separate,script,left,made,paid,_⟩
    exact ⟨separate,((plan.scriptSig_eq_ok script).mp made).1,left,paid⟩
  · rintro ⟨separate,signed,left,paid⟩
    exact ⟨_,separate,_,left,(plan.scriptSig_eq_ok _).mpr ⟨signed,rfl⟩,paid,rfl⟩

structure SharesOut (plan : CoinbasePlan) (coinbase : Coinbase) : Prop where
  payouts : coinbase.payouts =
    plan.founder.toList ++ plan.smartnodes ++ [⟨plan.minerScript, coinbase.minerReward⟩]
  reward : coinbase.minerReward.toNat = plan.value.toNat - plan.owed
  conserved : Payout.total coinbase.payouts = plan.value.toNat
  /-- No bytes in memory are too many for the counts in front of them. -/
  written : coinbase.bytes.length < UInt64.size →
    ∃ tx, Transaction.decode coinbase.bytes = some (tx,plan.trailer) ∧
      tx.outputs = coinbase.payouts.map (fun payout => ⟨payout.amount, payout.script⟩)
        ++ plan.commitment.toList.map fun script => ⟨0, script⟩

theorem sharesOut_finished (plan : CoinbasePlan) (script : Script) (left : UInt64)
    (paid : remainder plan.value plan.priorPayouts = some left) :
    plan.SharesOut (plan.finished script left) := by
  rw [remainder_eq_some,total_priorPayouts] at paid
  exact {
    payouts := rfl
    reward := by
      change left.toNat = _
      omega
    conserved := by
      change Payout.total (plan.priorPayouts ++ [⟨plan.minerScript,left⟩]) = _
      rw [Payout.total_append,total_priorPayouts,← paid]
      rfl
    written := fun fits => ⟨_,decode_finished script left fits,rfl⟩ }

/-- A coinbase pays out its value to the last unit, and is refused exactly if more than that is owed. -/
theorem coinbase_value_conserved (plan : CoinbasePlan) (inRange : plan.height.toNat < 2 ^ 63)
    (short : plan.tag.length ≤ 75) (separate : plan.payload = none ∨ plan.commitment = none) :
    ((∃ coinbase, plan.build = .ok coinbase) ↔ plan.owed ≤ plan.value.toNat) ∧
    ∀ coinbase, plan.build = .ok coinbase → plan.SharesOut coinbase := by
  have made := (plan.scriptSig_eq_ok _).mpr ⟨⟨inRange,short⟩,rfl⟩
  constructor
  · rw [← total_priorPayouts,← exists_remainder]
    constructor
    · rintro ⟨coinbase,built⟩
      obtain ⟨_,_,left,_,paid,_⟩ := build_eq_ok.mp built
      exact ⟨left,paid⟩
    · rintro ⟨left,paid⟩
      exact ⟨_,build_eq_ok.mpr ⟨separate,_,left,made,paid,rfl⟩⟩
  · intro coinbase built
    obtain ⟨_,script,left,_,paid,rfl⟩ := build_eq_ok.mp built
    exact plan.sharesOut_finished script left paid

/-- Owes so much that the sum comes to one in 64 bits. -/
def Sample.wrapping : CoinbasePlan :=
  { Sample.committed with founder := some ⟨[0x52], 18446744073709551615⟩, smartnodes := [⟨[], 2⟩] }

theorem coinbase_value_conserved_wrapping :
    (∃ coinbase, Sample.committed.build = .ok coinbase ∧ coinbase.minerReward = 30 ∧
      Sample.committed.SharesOut coinbase) ∧
    ¬ ∃ coinbase, Sample.wrapping.build = .ok coinbase := by
  have paying := coinbase_value_conserved Sample.committed (by decide) (by decide) (.inl rfl)
  have wrapping := coinbase_value_conserved Sample.wrapping (by decide) (by decide) (.inl rfl)
  constructor
  · obtain ⟨coinbase,built,reward⟩ := exists_ok Sample.committed.build
      (fun coinbase => coinbase.minerReward) 30 (by decide +kernel)
    exact ⟨coinbase,built,reward,paying.2 coinbase built⟩
  · rw [wrapping.1]
    decide

end CoinbasePlan

end SoloMining
