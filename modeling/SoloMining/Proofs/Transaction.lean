import SoloMining.Proofs.Block.Header
import SoloMining.Proofs.CompactSize
import SoloMining.Transaction

/-! Transactions read back. The reader tells the two layouts apart by what stands where the inputs are
counted: no transaction is without inputs, so a zero there marks that witnesses follow. -/
namespace SoloMining

def Bytes.take64 (bytes : Bytes) : Option (UInt64 × Bytes) :=
  (CompactSize.decodeFixed 8 0 bytes).map fun (n, rest) => (UInt64.ofNat n, rest)

theorem Bytes.take64_le64 (n : UInt64) (rest : Bytes) : take64 (le64 n ++ rest) = some (n,rest) := by
  rw [take64,le64,CompactSize.decodeFixed_append 8 0 n.toNat rest n.toNat_lt (Nat.zero_le _)]
  simp

def takeSized (bytes : Bytes) : Option (Bytes × Bytes) := do
  let (size, bytes) ← CompactSize.decode bytes
  if size ≤ bytes.length then pure (bytes.take size, bytes.drop size) else none

section Counted

variable {α β : Type}

def takeMany (take : Bytes → Option (β × Bytes)) : Nat → Bytes → Option (List β × Bytes)
  | 0, bytes => some ([], bytes)
  | count + 1, bytes => do
    let (item, bytes) ← take bytes
    let (items, bytes) ← takeMany take count bytes
    pure (item :: items, bytes)

def takeCounted (take : Bytes → Option (β × Bytes)) (bytes : Bytes) :
    Option (List β × Bytes) := do
  let (count, bytes) ← CompactSize.decode bytes
  takeMany take count bytes

theorem takeSized_encodeSized (data rest : Bytes) (fits : data.length < UInt64.size) :
    takeSized (encodeSized data ++ rest) = some (data,rest) := by
  simp only [takeSized,encodeSized,List.append_assoc,CompactSize.decode_encode _ _ fits,
    Option.bind_eq_bind,Option.bind_some]
  simp

theorem takeMany_flatMap (take : Bytes → Option (β × Bytes)) (encode : α → Bytes) (seen : α → β)
    (items : List α) (rest : Bytes)
    (reads : ∀ item ∈ items, ∀ rest, take (encode item ++ rest) = some (seen item,rest)) :
    takeMany take items.length (items.flatMap encode ++ rest) = some (items.map seen,rest) := by
  induction items with
  | nil => rfl
  | cons item items ih =>
    have first := reads item List.mem_cons_self (items.flatMap encode ++ rest)
    have others := ih fun other member => reads other (List.mem_cons_of_mem _ member)
    simp only [List.length_cons,takeMany,List.flatMap_cons,List.append_assoc,first,others,
      Option.bind_eq_bind,Option.bind_some,List.map_cons,Option.pure_def]

theorem length_le_flatMap (encode : α → Bytes) (items : List α)
    (nonempty : ∀ item, 1 ≤ (encode item).length) :
    items.length ≤ (items.flatMap encode).length := by
  induction items with
  | nil => simp
  | cons item items ih =>
    have one := nonempty item
    simp only [List.length_cons,List.flatMap_cons,List.length_append]
    omega

theorem length_mem_flatMap (encode : α → Bytes) (items : List α) (item : α)
    (member : item ∈ items) : (encode item).length ≤ (items.flatMap encode).length :=
  (List.sublist_flatten_of_mem (List.mem_map_of_mem member)).length_le

theorem takeCounted_encodeCounted (take : Bytes → Option (β × Bytes)) (encode : α → Bytes)
    (seen : α → β) (items : List α) (rest : Bytes)
    (nonempty : ∀ item, 1 ≤ (encode item).length)
    (fits : (encodeCounted encode items).length < UInt64.size)
    (reads : ∀ item ∈ items, (encode item).length < UInt64.size →
      ∀ rest, take (encode item ++ rest) = some (seen item,rest)) :
    takeCounted take (encodeCounted encode items ++ rest) = some (items.map seen,rest) := by
  -- The bytes of the list bound its count as well as every one of its items.
  rw [encodeCounted,List.length_append] at fits
  have count := length_le_flatMap encode items nonempty
  rw [takeCounted,encodeCounted,List.append_assoc,
    CompactSize.decode_encode items.length _ (by omega)]
  apply takeMany_flatMap
  intro item member
  have size := length_mem_flatMap encode items item member
  exact reads item member (by omega)

end Counted

theorem length_encodeSized (data : Bytes) : data.length < (encodeSized data).length := by
  have size := CompactSize.length_encode data.length
  rw [encodeSized,List.length_append]
  omega

namespace TxInput

def withoutWitness (input : TxInput) : TxInput := { input with witness := [] }

def take (bytes : Bytes) : Option (TxInput × Bytes) := do
  let (previousHash, bytes) ← Bytes.takeWord bytes
  let (previousIndex, bytes) ← Bytes.take32 bytes
  let (scriptSig, bytes) ← takeSized bytes
  let (sequence, bytes) ← Bytes.take32 bytes
  pure ({ previousHash, previousIndex, scriptSig, sequence, witness := [] }, bytes)

def takeWitnesses : List TxInput → Bytes → Option (List TxInput × Bytes)
  | [], bytes => some ([], bytes)
  | input :: inputs, bytes => do
    let (witness, bytes) ← takeCounted takeSized bytes
    let (inputs, bytes) ← takeWitnesses inputs bytes
    pure ({ input with witness } :: inputs, bytes)

theorem length_encode_pos (input : TxInput) : 1 ≤ input.encode.length := by
  have word := input.previousHash.length_bytes
  simp only [encode,List.length_append]
  omega

theorem take_encode (input : TxInput) (rest : Bytes) (fits : input.encode.length < UInt64.size) :
    take (input.encode ++ rest) = some (input.withoutWitness,rest) := by
  have script := length_encodeSized input.scriptSig
  simp only [encode,List.length_append] at fits
  simp only [take,encode,List.append_assoc,Bytes.takeWord_bytes,Bytes.take32_le32,
    takeSized_encodeSized input.scriptSig _ (by omega),Option.bind_eq_bind,Option.bind_some]
  rfl

theorem takeWitness_encodeWitness (input : TxInput) (rest : Bytes)
    (fits : input.encodeWitness.length < UInt64.size) :
    takeCounted takeSized (input.encodeWitness ++ rest) = some (input.witness,rest) := by
  have read := takeCounted_encodeCounted takeSized encodeSized id input.witness rest
    (fun item => by have size := length_encodeSized item; omega) fits
    (fun item _ size rest => takeSized_encodeSized item rest (by
      have longer := length_encodeSized item
      omega))
  rwa [List.map_id] at read

theorem takeWitnesses_encodeWitness (inputs : List TxInput) (rest : Bytes)
    (fits : (inputs.flatMap encodeWitness).length < UInt64.size) :
    takeWitnesses (inputs.map withoutWitness) (inputs.flatMap encodeWitness ++ rest) =
      some (inputs,rest) := by
  induction inputs with
  | nil => rfl
  | cons input inputs ih =>
    rw [List.flatMap_cons,List.length_append] at fits
    have first := takeWitness_encodeWitness input (inputs.flatMap encodeWitness ++ rest) (by omega)
    have others := ih (by omega)
    simp only [List.map_cons,takeWitnesses,List.flatMap_cons,List.append_assoc,first,others,
      Option.bind_eq_bind,Option.bind_some]
    rfl

end TxInput

namespace TxOutput

def take (bytes : Bytes) : Option (TxOutput × Bytes) := do
  let (amount, bytes) ← Bytes.take64 bytes
  let (script, bytes) ← takeSized bytes
  pure (⟨amount, script⟩, bytes)

theorem length_encode_pos (output : TxOutput) : 1 ≤ output.encode.length := by
  have script := length_encodeSized output.script
  simp only [encode,List.length_append]
  omega

theorem take_encode (output : TxOutput) (rest : Bytes)
    (fits : output.encode.length < UInt64.size) :
    take (output.encode ++ rest) = some (output,rest) := by
  have script := length_encodeSized output.script
  simp only [encode,List.length_append] at fits
  simp only [take,encode,List.append_assoc,Bytes.take64_le64,
    takeSized_encodeSized output.script _ (by omega),Option.bind_eq_bind,Option.bind_some,
    Option.pure_def]

end TxOutput

namespace Transaction

def takePlain (version : UInt32) (inputs : List TxInput) (bytes : Bytes) :
    Option (Transaction × Bytes) := do
  let (outputs, bytes) ← takeCounted TxOutput.take bytes
  let (lockTime, bytes) ← Bytes.take32 bytes
  pure (⟨version, inputs, outputs, lockTime⟩, bytes)

def takeExtended (version : UInt32) (bytes : Bytes) : Option (Transaction × Bytes) := do
  let (inputs, bytes) ← takeCounted TxInput.take bytes
  let (outputs, bytes) ← takeCounted TxOutput.take bytes
  let (inputs, bytes) ← TxInput.takeWitnesses inputs bytes
  let (lockTime, bytes) ← Bytes.take32 bytes
  let tx : Transaction := ⟨version, inputs, outputs, lockTime⟩
  if tx.hasWitness then pure (tx, bytes) else none

def decode (bytes : Bytes) : Option (Transaction × Bytes) := do
  let (version, bytes) ← Bytes.take32 bytes
  let (inputs, bytes) ← takeCounted TxInput.take bytes
  match inputs, bytes with
  | [], flag :: bytes => if flag = 1 then takeExtended version bytes else none
  | [], [] => none
  | inputs, bytes => takePlain version inputs bytes

theorem takeCounted_inputs (inputs : List TxInput) (rest : Bytes)
    (fits : (encodeCounted TxInput.encode inputs).length < UInt64.size) :
    takeCounted TxInput.take (encodeCounted TxInput.encode inputs ++ rest) =
      some (inputs.map TxInput.withoutWitness,rest) :=
  takeCounted_encodeCounted TxInput.take TxInput.encode TxInput.withoutWitness inputs rest
    TxInput.length_encode_pos fits fun input _ size rest => input.take_encode rest size

theorem takeCounted_outputs (outputs : List TxOutput) (rest : Bytes)
    (fits : (encodeCounted TxOutput.encode outputs).length < UInt64.size) :
    takeCounted TxOutput.take (encodeCounted TxOutput.encode outputs ++ rest) =
      some (outputs,rest) := by
  have read := takeCounted_encodeCounted TxOutput.take TxOutput.encode id outputs rest
    TxOutput.length_encode_pos fits fun output _ size rest => output.take_encode rest size
  rwa [List.map_id] at read

theorem map_withoutWitness (tx : Transaction) (plain : tx.hasWitness = false) :
    tx.inputs.map TxInput.withoutWitness = tx.inputs := by
  have unchanged : ∀ input ∈ tx.inputs, input.withoutWitness = input := by
    intro input member
    have none := List.any_eq_false.mp plain input member
    obtain ⟨hash,index,script,sequence,witness⟩ := input
    simpa [TxInput.withoutWitness] using none
  rw [List.map_congr_left unchanged,List.map_id']

theorem takePlain_encode (tx : Transaction) (rest : Bytes)
    (fits : (encodeCounted TxOutput.encode tx.outputs).length < UInt64.size) :
    takePlain tx.version tx.inputs (encodeCounted TxOutput.encode tx.outputs
      ++ (Bytes.le32 tx.lockTime ++ rest)) = some (tx,rest) := by
  simp only [takePlain,takeCounted_outputs tx.outputs _ fits,Bytes.take32_le32,
    Option.bind_eq_bind,Option.bind_some,Option.pure_def]

theorem takeExtended_encode (tx : Transaction) (rest : Bytes) (witnessed : tx.hasWitness = true)
    (body : tx.encodeBody.length < UInt64.size)
    (witnesses : (tx.inputs.flatMap TxInput.encodeWitness).length < UInt64.size) :
    takeExtended tx.version (tx.encodeBody ++ tx.inputs.flatMap TxInput.encodeWitness
      ++ Bytes.le32 tx.lockTime ++ rest) = some (tx,rest) := by
  simp only [encodeBody,List.length_append] at body
  have inputs := takeCounted_inputs tx.inputs
  have outputs := takeCounted_outputs tx.outputs
  have stack := TxInput.takeWitnesses_encodeWitness tx.inputs
  simp only [takeExtended,encodeBody,List.append_assoc,inputs _ (by omega),outputs _ (by omega),
    stack _ witnesses,Bytes.take32_le32,Option.bind_eq_bind,Option.bind_some]
  exact if_pos witnessed

/-- A transaction with an input reads back, whatever follows it. -/
theorem decode_encode (tx : Transaction) (rest : Bytes) (spends : tx.inputs ≠ [])
    (fits : tx.encode.length < UInt64.size) : decode (tx.encode ++ rest) = some (tx,rest) := by
  cases layout : tx.hasWitness with
  | false =>
    simp only [encode,layout,Bool.false_eq_true,if_false,encodeStripped,encodeBody,
      List.length_append] at fits
    have inputs := takeCounted_inputs tx.inputs
    have plain := takePlain_encode tx rest (by omega)
    simp only [encode,layout,Bool.false_eq_true,if_false,encodeStripped,encodeBody,decode,
      List.append_assoc,Bytes.take32_le32,inputs _ (by omega),tx.map_withoutWitness layout,
      Option.bind_eq_bind,Option.bind_some]
    cases given : tx.inputs with
    | nil => exact absurd given spends
    | cons input others =>
      rw [given] at plain
      exact plain
  | true =>
    simp only [encode,layout,if_true,List.length_append] at fits
    have extended := takeExtended_encode tx rest layout (by omega) (by omega)
    have whole : tx.encode ++ rest = Bytes.le32 tx.version ++ ([0,1] ++ (tx.encodeBody
        ++ tx.inputs.flatMap TxInput.encodeWitness ++ Bytes.le32 tx.lockTime ++ rest)) := by
      simp only [encode,layout,if_true,List.append_assoc]
    -- The marker is read as a count of no inputs.
    have marker : takeCounted TxInput.take ([0,1] ++ (tx.encodeBody
        ++ tx.inputs.flatMap TxInput.encodeWitness ++ Bytes.le32 tx.lockTime ++ rest)) =
      some ([],1 :: (tx.encodeBody ++ tx.inputs.flatMap TxInput.encodeWitness
        ++ Bytes.le32 tx.lockTime ++ rest)) := rfl
    rw [whole,decode,Bytes.take32_le32]
    simp only [Option.bind_eq_bind,Option.bind_some,marker,if_true]
    exact extended

end Transaction

end SoloMining
