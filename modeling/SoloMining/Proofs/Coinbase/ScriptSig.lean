import SoloMining.Coinbase
import SoloMining.Proofs.Bytes

/-! The script of a coinbase input. It begins with the shortest push of the height, so the height can
be read back from it, and it stays within the bounds that every coinbase has to keep. -/
namespace SoloMining

namespace Script

/-- The number that bytes stand for in a script: the least significant byte comes first, and the
highest bit of the last byte is the sign. -/
def toInt (number : Bytes) : Int :=
  if 2 * Bytes.toNatLE number < 256 ^ number.length then Bytes.toNatLE number
  else 256 ^ number.length / 2 - Bytes.toNatLE number

structure Shortest (number : Bytes) (n : Nat) : Prop where
  value : toInt number = n
  least : ∀ other, toInt other = n → number.length ≤ other.length

def directPush (data : Bytes) : Script := UInt8.ofNat data.length :: data

/-- The minimal push of a number: up to 16 the opcode itself says which. -/
inductive PushesNumber : Nat → Script → Prop
  | zero : PushesNumber 0 [0x00]
  | small (n : Nat) (positive : 1 ≤ n) (most : n ≤ 16) :
      PushesNumber n [UInt8.ofNat (0x50 + n)]
  | direct (n : Nat) (number : Bytes) (beyond : 16 < n) (shortest : Shortest number n)
      (fits : number.length ≤ 75) : PushesNumber n (directPush number)

def takeNumber : Script → Option (Int × Script)
  | [] => none
  | opcode :: rest =>
    if opcode.toNat ≤ 75 then
      if opcode.toNat ≤ rest.length then
        some (toInt (rest.take opcode.toNat), rest.drop opcode.toNat)
      else none
    else if 0x51 ≤ opcode.toNat ∧ opcode.toNat ≤ 0x60 then some (opcode.toNat - 0x50, rest)
    else none

theorem takeNumber_directPush (data rest : Bytes) (fits : data.length ≤ 75) :
    takeNumber (directPush data ++ rest) = some (toInt data,rest) := by
  have opcode : (UInt8.ofNat data.length).toNat = data.length := by
    apply UInt8.toNat_ofNat_of_lt
    change data.length < 256
    omega
  simp [takeNumber,directPush,opcode,fits]

theorem PushesNumber.takeNumber_append {n : Nat} {push : Script} (pushes : PushesNumber n push)
    (rest : Script) : takeNumber (push ++ rest) = some ((n : Int),rest) := by
  cases pushes with
  | zero => simp [takeNumber,toInt,Bytes.toNatLE]
  | small _ positive most =>
    have opcode : (UInt8.ofNat (0x50 + n)).toNat = 0x50 + n := by
      apply UInt8.toNat_ofNat_of_lt
      change 0x50 + n < 256
      omega
    have named : ¬ 0x50 + n ≤ 75 ∧ 0x51 ≤ 0x50 + n ∧ 0x50 + n ≤ 0x60 := by omega
    have value : ((0x50 + n : Nat) : Int) - 0x50 = n := by omega
    rw [List.singleton_append]
    simp only [takeNumber,opcode,named,if_false,and_self,if_true,value]
  | direct _ number beyond shortest fits =>
    rw [takeNumber_directPush number rest fits,shortest.value]

end Script

namespace CoinbasePlan

theorem toNatLE_scriptNumber (n : Nat) : Bytes.toNatLE (scriptNumber n) = n := by
  induction n using scriptNumber.induct with
  | case1 n one =>
    have byte : (UInt8.ofNat n).toNat = n := UInt8.toNat_ofNat_of_lt (by change n < 256; omega)
    rw [scriptNumber,if_pos one]
    simp [Bytes.toNatLE,byte]
  | case2 n notOne two =>
    have byte : (UInt8.ofNat n).toNat = n := UInt8.toNat_ofNat_of_lt two
    rw [scriptNumber,if_neg notOne,if_pos two]
    simp [Bytes.toNatLE,byte]
  | case3 n notOne notTwo ih =>
    rw [scriptNumber,if_neg notOne,if_neg notTwo]
    simp only [Bytes.toNatLE,ih,UInt8.toNat_ofNat']
    omega

-- The half of a power survives the division of the recursion; `2 * n < 256 ^ length` would not.
theorem scriptNumber_bound (n : Nat) :
    ∃ width, (scriptNumber n).length = width + 1 ∧ n < 128 * 256 ^ width := by
  induction n using scriptNumber.induct with
  | case1 n one =>
    rw [scriptNumber,if_pos one]
    exact ⟨0,rfl,by simpa using one⟩
  | case2 n notOne two =>
    rw [scriptNumber,if_neg notOne,if_pos two]
    exact ⟨1,rfl,by omega⟩
  | case3 n notOne notTwo ih =>
    obtain ⟨width,size,bound⟩ := ih
    rw [scriptNumber,if_neg notOne,if_neg notTwo]
    exact ⟨width + 1,by rw [List.length_cons,size],by rw [Nat.pow_succ]; omega⟩

theorem scriptNumber_positive (n : Nat) : 2 * n < 256 ^ (scriptNumber n).length := by
  obtain ⟨width,size,bound⟩ := scriptNumber_bound n
  rw [size,Nat.pow_succ]
  omega

theorem length_scriptNumber_le (n width : Nat) (fits : 2 * n < 256 ^ width) (positive : 0 < n) :
    (scriptNumber n).length ≤ width := by
  induction n using scriptNumber.induct generalizing width with
  | case1 n one =>
    cases width with
    | zero => simp at fits; omega
    | succ width => simp [scriptNumber,one]
  | case2 n notOne two =>
    match width with
    | 0 => simp at fits; omega
    | 1 => simp at fits; omega
    | width + 2 => simp [scriptNumber,notOne,two]
  | case3 n notOne notTwo ih =>
    cases width with
    | zero => simp at fits; omega
    | succ width =>
      rw [Nat.pow_succ] at fits
      have rest := ih width (by omega) (by omega)
      rw [scriptNumber,if_neg notOne,if_neg notTwo]
      exact Nat.succ_le_succ rest

theorem shortest_scriptNumber (n : Nat) (positive : 0 < n) :
    Script.Shortest (scriptNumber n) n where
  value := by simp only [Script.toInt,toNatLE_scriptNumber,scriptNumber_positive,if_true]
  least := by
    intro other same
    apply length_scriptNumber_le n other.length _ positive
    simp only [Script.toInt] at same
    split at same
    next clear =>
      have value : Bytes.toNatLE other = n := by omega
      rwa [value] at clear
    next set =>
      -- With its sign set a number is at most zero.
      have power : ((256 ^ other.length : Nat) : Int) = 256 ^ other.length := by simp
      omega

theorem pushNumber_pushes (n : Nat) (fits : n < 2 ^ 63) : Script.PushesNumber n (pushNumber n) := by
  unfold pushNumber
  split
  next zero =>
    subst zero
    exact .zero
  next positive =>
    split
    next small => exact .small n (by omega) small
    next beyond =>
      have size : (scriptNumber n).length ≤ 8 := length_scriptNumber_le n 8 (by omega) (by omega)
      exact .direct n _ (by omega) (shortest_scriptNumber n (by omega)) (by omega)

theorem length_pushNumber (n : Nat) (fits : n < 2 ^ 63) :
    1 ≤ (pushNumber n).length ∧ (pushNumber n).length ≤ 9 := by
  unfold pushNumber
  split
  next zero => simp
  next positive =>
    split
    next small => simp
    next beyond =>
      have size := length_scriptNumber_le n 8 (by omega) (by omega)
      simp only [List.length_cons]
      omega

def tagPush (plan : CoinbasePlan) : Script :=
  if plan.tag = [] then [] else Script.directPush plan.tag

theorem length_tagPush (plan : CoinbasePlan) : plan.tagPush.length ≤ plan.tag.length + 1 := by
  unfold tagPush
  split <;> simp [Script.directPush]

theorem length_atLeastTwo (script : Script) (nonempty : 1 ≤ script.length) :
    (atLeastTwo script).length = max 2 script.length := by
  unfold atLeastTwo
  split
  · rw [List.length_append,List.length_singleton]
    omega
  · omega

def scriptBody (plan : CoinbasePlan) : Script := pushNumber plan.height.toNat ++ plan.tagPush

theorem length_scriptBody (plan : CoinbasePlan) (inRange : plan.height.toNat < 2 ^ 63)
    (short : plan.tag.length ≤ 75) :
    1 ≤ plan.scriptBody.length ∧ plan.scriptBody.length ≤ 85 := by
  have height := length_pushNumber plan.height.toNat inRange
  have tag := plan.length_tagPush
  rw [scriptBody,List.length_append]
  omega

theorem scriptSig_eq (plan : CoinbasePlan) : plan.scriptSig =
    if 2 ^ 63 ≤ plan.height.toNat then .error (.template (.heightOutOfRange plan.height))
    else if 75 < plan.tag.length then .error (.config .tagTooLong)
    else .ok (atLeastTwo plan.scriptBody) := by
  have half : UInt64.size / 2 = 2 ^ 63 := rfl
  have body : pushNumber plan.height.toNat ++
      (if plan.tag.isEmpty then [] else UInt8.ofNat plan.tag.length :: plan.tag) =
        plan.scriptBody := by
    simp [scriptBody,tagPush,Script.directPush]
  simp only [scriptSig,half,body]
  split
  next => rfl
  next inRange =>
    split
    next => rfl
    next short =>
      have size := plan.length_scriptBody (by omega) (by omega)
      rw [if_neg]
      rw [length_atLeastTwo _ size.1,maxScriptSig]
      omega

theorem scriptSig_eq_ok (plan : CoinbasePlan) (script : Script) : plan.scriptSig = .ok script ↔
    (plan.height.toNat < 2 ^ 63 ∧ plan.tag.length ≤ 75) ∧ script = atLeastTwo plan.scriptBody := by
  rw [scriptSig_eq]
  split
  next outOfRange =>
    simp only [reduceCtorEq,false_iff]
    omega
  next inRange =>
    split
    next long =>
      simp only [reduceCtorEq,false_iff]
      omega
    next short =>
      have accepted : plan.height.toNat < 2 ^ 63 ∧ plan.tag.length ≤ 75 := by omega
      simp only [accepted,and_self,true_and,Except.ok.injEq]
      exact eq_comm

/-- What a coinbase input says: the height, then the tag, and a zero byte where that is one byte. -/
structure Signs (plan : CoinbasePlan) (script : Script) : Prop where
  pushes : ∃ push, Script.PushesNumber plan.height.toNat push ∧
    script = if (push ++ plan.tagPush).length = 1 then push ++ plan.tagPush ++ [0x00]
      else push ++ plan.tagPush
  least : 2 ≤ script.length
  most : script.length ≤ 85

theorem signs_of_scriptSig {plan : CoinbasePlan} {script : Script}
    (made : plan.scriptSig = .ok script) : plan.Signs script := by
  obtain ⟨⟨inRange,short⟩,rfl⟩ := (plan.scriptSig_eq_ok script).mp made
  have size := plan.length_scriptBody inRange short
  have padded := length_atLeastTwo plan.scriptBody size.1
  have tooShort : plan.scriptBody.length < 2 ↔ plan.scriptBody.length = 1 := by omega
  exact {
    pushes := by
      refine ⟨_,pushNumber_pushes plan.height.toNat inRange,?_⟩
      change atLeastTwo plan.scriptBody =
        if plan.scriptBody.length = 1 then plan.scriptBody ++ [0x00] else plan.scriptBody
      simp only [atLeastTwo,tooShort]
    least := by omega
    most := by omega }

theorem Signs.takeNumber {plan : CoinbasePlan} {script : Script} (signs : plan.Signs script) :
    ∃ rest, Script.takeNumber script = some ((plan.height.toNat : Int),rest) := by
  obtain ⟨push,pushes,rfl⟩ := signs.pushes
  split
  next =>
    rw [List.append_assoc]
    exact ⟨_,pushes.takeNumber_append _⟩
  next => exact ⟨_,pushes.takeNumber_append _⟩

theorem Signs.height {plan other : CoinbasePlan} {script : Script} (signs : plan.Signs script)
    (again : other.Signs script) : plan.height = other.height := by
  obtain ⟨rest,first⟩ := signs.takeNumber
  obtain ⟨more,second⟩ := again.takeNumber
  rw [first] at second
  simp only [Option.some.injEq,Prod.mk.injEq] at second
  exact UInt64.toNat_inj.mp (Int.ofNat_inj.mp second.1)

/-- The script of a coinbase input can be made up to these bounds exactly, is never too large then, and
tells the height: whatever the tags, the scripts of two heights differ. -/
theorem script_sig_tells_height (plan : CoinbasePlan) :
    ((∃ script, plan.scriptSig = .ok script) ↔
      plan.height.toNat < 2 ^ 63 ∧ plan.tag.length ≤ 75) ∧
    (∀ size, plan.scriptSig ≠ .error (.template (.scriptSigTooLarge size))) ∧
    (∀ script, plan.scriptSig = .ok script → plan.Signs script) ∧
    ∀ (other : CoinbasePlan) (script : Script), other.scriptSig = .ok script →
      plan.scriptSig = .ok script → other.height = plan.height := by
  refine ⟨?_,?_,fun _ made => signs_of_scriptSig made,?_⟩
  · constructor
    · rintro ⟨script,made⟩
      exact ((plan.scriptSig_eq_ok script).mp made).1
    · intro accepted
      exact ⟨_,(plan.scriptSig_eq_ok _).mpr ⟨accepted,rfl⟩⟩
  · intro size
    rw [scriptSig_eq]
    split
    next => simp
    next =>
      split <;> simp
  · intro other script again made
    exact (signs_of_scriptSig again).height (signs_of_scriptSig made)

/-- From 128 on another byte keeps the sign clear. -/
example : pushNumber 16 = [0x60] ∧ pushNumber 127 = [0x01, 0x7F] ∧
    pushNumber 128 = [0x02, 0x80, 0x00] := by
  decide +kernel

end CoinbasePlan

end SoloMining
