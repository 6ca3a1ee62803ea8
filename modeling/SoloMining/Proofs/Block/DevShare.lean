import SoloMining.Proofs.Block.Acceptance
import SoloMining.Proofs.DevRounds

/-! What a draw decides. It scales the next two words of the stream to a number below one hundred,
and a candidate depends on it in whom the last payout pays and in nothing else. -/
namespace SoloMining

namespace Dice

/-- The number drawn from a hundred, and the dice after it. The next two words are one fraction of
64 bits, scaled to a hundred; the second word is taken only where its carry may reach the result. -/
structure Draws (dice : Dice) (drawn : Nat) (after : Dice) : Prop where
  carried : drawn = (dice.stream dice.taken).toNat * 100 / 2 ^ 32 +
    if 2 ^ 32 ≤ (dice.stream dice.taken).toNat * 100 % 2 ^ 32 +
      (dice.stream (dice.taken + 1)).toNat * 100 / 2 ^ 32 then 1 else 0
  scaled : drawn = ((dice.stream dice.taken).toNat * 2 ^ 32 +
    (dice.stream (dice.taken + 1)).toNat) * 100 / 2 ^ 64
  below : drawn < 100
  stream : after.stream = dice.stream
  taken : after.taken = dice.taken +
    if 2 ^ 32 - 100 < (dice.stream dice.taken).toNat * 100 % 2 ^ 32 then 2 else 1

theorem roll_eq (dice : Dice) : dice.roll 100 =
    ((dice.stream dice.taken).toNat * 100 / 2 ^ 32 +
      if 2 ^ 32 ≤ (dice.stream dice.taken).toNat * 100 % 2 ^ 32 +
        (dice.stream (dice.taken + 1)).toNat * 100 / 2 ^ 32 then 1 else 0,
      ⟨dice.stream,dice.taken +
        if 2 ^ 32 - 100 < (dice.stream dice.taken).toNat * 100 % 2 ^ 32 then 2 else 1⟩) := by
  have size : UInt32.size = 2 ^ 32 := rfl
  have second : (dice.stream (dice.taken + 1)).toNat * 100 / 2 ^ 32 < 100 := by
    have bound := (dice.stream (dice.taken + 1)).toNat_lt
    omega
  simp only [roll,size]
  split
  next close =>
    split
    next overflows => rfl
    next fits => rfl
  next apart =>
    -- The low half is so small that no second word could make it overflow.
    rw [if_neg (by omega)]
    rfl

theorem roll_draws (dice : Dice) : dice.Draws (dice.roll 100).1 (dice.roll 100).2 := by
  have first := (dice.stream dice.taken).toNat_lt
  have second := (dice.stream (dice.taken + 1)).toNat_lt
  rw [roll_eq]
  have scaled : (dice.stream dice.taken).toNat * 100 / 2 ^ 32 +
      (if 2 ^ 32 ≤ (dice.stream dice.taken).toNat * 100 % 2 ^ 32 +
        (dice.stream (dice.taken + 1)).toNat * 100 / 2 ^ 32 then 1 else 0) =
      ((dice.stream dice.taken).toNat * 2 ^ 32 +
        (dice.stream (dice.taken + 1)).toNat) * 100 / 2 ^ 64 := by
    split <;> omega
  exact ⟨rfl,scaled,by omega,rfl,rfl⟩

end Dice

structure Candidate.Alike (first second : Candidate) : Prop where
  prior : first.coinbase.payouts.dropLast = second.coinbase.payouts.dropLast
  amounts : first.coinbase.payouts.map Payout.amount = second.coinbase.payouts.map Payout.amount
  minerReward : first.coinbase.minerReward = second.coinbase.minerReward
  reward : first.reward = second.reward
  target : first.target = second.target ∧ first.threshold = second.threshold
  transactions : first.transactions = second.transactions
  height : first.height = second.height
  /-- The tree has the coinbase in it, and so all of the header but its root is the same. -/
  header : { first.header with merkleRoot := second.header.merkleRoot } = second.header
  /-- Where the draw comes out the same, so does everything. -/
  decided : first.devRound = second.devRound → first = second

structure Candidate.Pays (candidate : Candidate) (payee : Payee) (t : Template) : Prop where
  prior : List.Forall₂ (fun payment payout => Payout.ofPayment payment = .ok payout) t.duePayments
    candidate.coinbase.payouts.dropLast
  dev : candidate.devRound = true → ∃ script, payee.dev = some script ∧
    candidate.coinbase.payouts.getLast? = some ⟨script, candidate.coinbase.minerReward⟩
  miner : candidate.devRound = false →
    candidate.coinbase.payouts.getLast? = some ⟨payee.mining, candidate.coinbase.minerReward⟩

namespace BlockBuilder

variable {payee : Payee} {t : Template} {fields : TemplateFields} {candidate twin : Candidate}
  {devRound other : Bool}

theorem assemble_payouts (made : assemble payee t fields devRound = .ok candidate) :
    candidate.coinbase.payouts = fields.founder.toList ++ fields.smartnodes ++
      [⟨payee.script devRound,candidate.coinbase.minerReward⟩] ∧ candidate.devRound = devRound := by
  obtain ⟨coinbase,root,built,_,rfl⟩ := assemble_eq_ok.mp made
  obtain ⟨_,script,left,_,_,rfl⟩ := CoinbasePlan.build_eq_ok.mp built
  exact ⟨rfl,rfl⟩

/-- What can be completed for one outcome of the draw can be completed for the other. -/
theorem exists_assemble_other (made : assemble payee t fields devRound = .ok candidate)
    (other : Bool) : ∃ twin, assemble payee t fields other = .ok twin := by
  obtain ⟨coinbase,_,built,_⟩ := assemble_eq_ok.mp made
  obtain ⟨separate,script,left,signed,paid,_⟩ := CoinbasePlan.build_eq_ok.mp built
  have rebuilt : (plan fields (payee.script other)).build =
      .ok ((plan fields (payee.script other)).finished script left) :=
    CoinbasePlan.build_eq_ok.mpr ⟨separate,script,left,signed,paid,rfl⟩
  exact (exists_assemble payee other).mpr ⟨_,rebuilt⟩

theorem assemble_alike (made : assemble payee t fields devRound = .ok candidate)
    (remade : assemble payee t fields other = .ok twin) : candidate.Alike twin := by
  have decided : candidate.devRound = twin.devRound → candidate = twin := by
    intro same
    rw [(assemble_payouts made).2,(assemble_payouts remade).2] at same
    subst same
    exact Except.ok.inj (made.symm.trans remade)
  have payouts := (assemble_payouts made).1
  have others := (assemble_payouts remade).1
  obtain ⟨coinbase,root,built,_,stated⟩ := assemble_eq_ok.mp made
  obtain ⟨otherCoinbase,otherRoot,rebuilt,_,restated⟩ := assemble_eq_ok.mp remade
  have left : coinbase.minerReward = otherCoinbase.minerReward := by
    obtain ⟨_,_,left,_,paid,rfl⟩ := CoinbasePlan.build_eq_ok.mp built
    obtain ⟨_,_,otherLeft,_,otherPaid,rfl⟩ := CoinbasePlan.build_eq_ok.mp rebuilt
    exact Option.some.inj (paid.symm.trans otherPaid)
  have reward : candidate.coinbase.minerReward = twin.coinbase.minerReward := by
    rw [stated,restated]
    exact left
  exact {
    prior := by rw [payouts,others,List.dropLast_concat,List.dropLast_concat]
    amounts := by
      rw [payouts,others,reward]
      simp
    minerReward := reward
    reward := by
      rw [stated,restated]
      exact congrArg (Reward.mk payee.coin) left
    target := by
      rw [stated,restated]
      exact ⟨rfl,rfl⟩
    transactions := by
      rw [stated,restated]
    height := by
      rw [stated,restated]
    header := by
      rw [stated,restated]
    decided }

theorem create_fee (payee : Payee) (fee : UInt8) (dice : Dice) :
    (create payee fee dice).devFeePercent.toNat = min fee.toNat 100 := by
  change (if fee ≤ 100 then fee else 100).toNat = _
  split
  next small =>
    rw [UInt8.le_iff_toNat_le] at small
    exact (Nat.min_eq_left small).symm
  next large =>
    rw [UInt8.le_iff_toNat_le] at large
    exact (Nat.min_eq_right (Nat.le_of_not_le large)).symm

/-- The number that is drawn falls below the fee or not. -/
theorem draw_compared (fee : UInt8) (dice : Dice) (given : payee.dev.isSome) :
    dice.Draws (dice.roll 100).1 (create payee fee dice).drawDevRound.2.dice ∧
      ((create payee fee dice).drawDevRound.1 = true ↔ (dice.roll 100).1 < min fee.toNat 100) := by
  have drawn : (create payee fee dice).drawDevRound =
      (decide ((dice.roll 100).1 < (create payee fee dice).devFeePercent.toNat),
        { create payee fee dice with dice := (dice.roll 100).2 }) := if_pos given
  rw [drawn,create_fee,decide_eq_true_iff]
  exact ⟨dice.roll_draws,Iff.rfl⟩

theorem pays_assembled (stated : fields.StatedBy t)
    (made : assemble payee t fields devRound = .ok candidate)
    (due : devRound = true → payee.dev.isSome) : candidate.Pays payee t := by
  obtain ⟨payouts,rfl⟩ := assemble_payouts made
  refine ⟨?_,?_,?_⟩
  · rw [payouts,List.dropLast_concat]
    exact stated.priorPayouts
  · intro round
    obtain ⟨script,given⟩ := Option.isSome_iff_exists.mp (due round)
    have whom : payee.script candidate.devRound = script := by simp only [Payee.script,given,round]
    rw [payouts,List.getLast?_concat,whom]
    exact ⟨script,given,rfl⟩
  · intro round
    have whom : payee.script candidate.devRound = payee.mining := by simp [Payee.script,round]
    rw [payouts,List.getLast?_concat,whom]

/-- A draw takes a number below one hundred from the words of the stream, and compares it with the
fee. It decides whether the last payout pays the dev address, and everything else is as it would be
for any other fee and any other words. -/
theorem draw_decides_payee_alone (payee : Payee) (fee : UInt8) (dice : Dice) (t : Template)
    (candidate : Candidate) (next : BlockBuilder)
    (built : (create payee fee dice).build t = (.ok candidate, next)) :
    (payee.dev = none → next = create payee fee dice ∧ candidate.devRound = false) ∧
    (∀ script, payee.dev = some script →
      (∃ drawn, dice.Draws drawn next.dice ∧
        (candidate.devRound = true ↔ drawn < min fee.toNat 100)) ∧
      (fee = 0 → candidate.devRound = false) ∧ (100 ≤ fee → candidate.devRound = true)) ∧
    candidate.Pays payee t ∧
    ∀ otherFee otherDice, ∃ twin after,
      (create payee otherFee otherDice).build t = (.ok twin, after) ∧ candidate.Alike twin := by
  obtain ⟨fields,stated,rfl,made⟩ := build_eq_ok.mp built
  have same (fee : UInt8) (dice : Dice) : (create payee fee dice).drawDevRound.2.payee = payee := by
    obtain ⟨_,moved⟩ := (create payee fee dice).drawDevRound_dice
    rw [moved]
    rfl
  rw [same] at made
  have round := (assemble_payouts made).2
  refine ⟨?_,?_,?_,?_⟩
  · intro alone
    have still : (create payee fee dice).drawDevRound = (false,create payee fee dice) :=
      if_neg (by simp [create,alone])
    rw [round,still]
    exact ⟨rfl,rfl⟩
  · intro script given
    obtain ⟨draws,decides⟩ := draw_compared fee dice (Option.isSome_iff_exists.mpr ⟨script,given⟩)
    rw [← round] at decides
    refine ⟨⟨_,draws,decides⟩,?_,?_⟩
    · rintro rfl
      rw [Bool.eq_false_iff,Ne,decides]
      simp
    · intro whole
      have most : min fee.toNat 100 = 100 := Nat.min_eq_right (UInt8.le_iff_toNat_le.mp whole)
      rw [decides,most]
      exact draws.below
  · apply pays_assembled stated made
    intro drawn
    rw [drawDevRound_decides,decision,Bool.and_eq_true] at drawn
    exact drawn.1
  · intro otherFee otherDice
    obtain ⟨twin,remade⟩ :=
      exists_assemble_other made (create payee otherFee otherDice).drawDevRound.1
    have rebuilt := build_eq_ok.mpr ⟨fields,stated,rfl,by rw [same]; exact remade⟩
    exact ⟨twin,_,rebuilt,assemble_alike made remade⟩

namespace Sample

def shared : Payee := ⟨.raptoreum, [0x51], some [0x52]⟩

/-- The low half of the first product is short of overflowing by 96, and the second word makes up
for it. -/
def carrying : Dice := ⟨fun i => if i = 0 then 42949672 else 4294967295, 0⟩

end Sample

/-- Without the carry the number would be zero, and the dev address would be paid. -/
theorem draw_decides_payee_alone_carry : ∃ candidate next,
    (create Sample.shared 1 Sample.carrying).build Candidate.Sample.template =
        (.ok candidate, next) ∧
      Sample.carrying.Draws 1 next.dice ∧ next.dice.taken = 2 ∧ candidate.devRound = false ∧
      candidate.coinbase.payouts = [⟨[0x51], 5000000000⟩] ∧
      ∃ twin after, (create Sample.shared 2 Sample.carrying).build Candidate.Sample.template =
          (.ok twin, after) ∧
        twin.devRound = true ∧ twin.coinbase.payouts = [⟨[0x52], 5000000000⟩] ∧
        candidate.Alike twin := by
  obtain ⟨candidate,made,seen⟩ := exists_ok
    ((create Sample.shared 1 Sample.carrying).build Candidate.Sample.template).1
    (fun candidate => (candidate.devRound,candidate.coinbase.payouts))
    (false,[⟨[0x51],5000000000⟩]) (by decide +kernel)
  obtain ⟨other,remade,reseen⟩ := exists_ok
    ((create Sample.shared 2 Sample.carrying).build Candidate.Sample.template).1
    (fun candidate => (candidate.devRound,candidate.coinbase.payouts))
    (true,[⟨[0x52],5000000000⟩]) (by decide +kernel)
  obtain ⟨round,payouts⟩ := Prod.ext_iff.mp seen
  obtain ⟨otherRound,otherPayouts⟩ := Prod.ext_iff.mp reseen
  have built : (create Sample.shared 1 Sample.carrying).build Candidate.Sample.template =
      (.ok candidate,
        ((create Sample.shared 1 Sample.carrying).build Candidate.Sample.template).2) :=
    Prod.ext made rfl
  obtain ⟨_,drawing,_,twins⟩ := draw_decides_payee_alone Sample.shared 1 Sample.carrying
    Candidate.Sample.template candidate _ built
  obtain ⟨⟨drawn,draws,_⟩,_⟩ := drawing [0x52] rfl
  have one : drawn = 1 := draws.carried.trans (by decide)
  subst one
  obtain ⟨twin,after,rebuilt,alike⟩ := twins 2 Sample.carrying
  have same : twin = other := by
    rw [rebuilt] at remade
    exact Except.ok.inj remade
  subst same
  exact ⟨candidate,_,built,draws,draws.taken.trans (by decide),round,payouts,twin,after,rebuilt,
    otherRound,otherPayouts,alike⟩

end BlockBuilder

end SoloMining
