import SoloMining.Text.Split

/-! Punycode: a text as its ASCII characters and the places of all others. -/
namespace SoloMining.Url.Punycode

def digitValue? (c : Char) : Option Nat :=
  if 'a' ≤ c ∧ c ≤ 'z' then some (c.toNat - 97)
  else if 'A' ≤ c ∧ c ≤ 'Z' then some (c.toNat - 65)
  else if '0' ≤ c ∧ c ≤ '9' then some (c.toNat - 22)
  else none

def threshold (position bias : Nat) : Nat :=
  if position ≤ bias then 1 else min 26 (position - bias)

def scaleDown (delta steps : Nat) : Nat × Nat :=
  if 455 < delta then scaleDown (delta / 35) (steps + 36) else (delta, steps)
termination_by delta
decreasing_by exact Nat.div_lt_self (by omega) (by omega)

def adapt (delta size : Nat) (first : Bool) : Nat :=
  let damped := if first then delta / 700 else delta / 2
  let (small, steps) := scaleDown (damped + damped / size) 0
  steps + 36 * small / (small + 38)

def readNumber (bias : Nat) : (position weight value : Nat) → (cs : List Char) →
    Option (Nat × { rest : List Char // rest.length < cs.length })
  | _, _, _, [] => none
  | position, weight, value, c :: rest =>
    match digitValue? c with
    | none => none
    | some d =>
      let limit := threshold position bias
      if d < limit then some (value + d * weight, ⟨rest, by simp⟩)
      else
        match readNumber bias (position + 36) (weight * (36 - limit)) (value + d * weight) rest with
        | none => none
        | some (n, ⟨after, shorter⟩) => some (n, ⟨after, by simp; omega⟩)

def insertAll (code state bias : Nat) (done : List Char) (cs : List Char) : Option (List Char) :=
  match cs with
  | [] => some done
  | c :: tail =>
    match readNumber bias 36 1 state (c :: tail) with
    | none => none
    | some (n, rest) =>
      let size := done.length + 1
      let next := code + n / size
      if next.isValidChar then
        insertAll next (n % size + 1) (adapt (n - state) size (state == 0))
          (done.insertIdx (n % size) (Char.ofNat next)) rest.val
      else none
termination_by cs.length
decreasing_by exact rest.property

def decode (cs : List Char) : Option (List Char) :=
  match Text.splitLast '-' cs with
  | some (plain, numbers) => insertAll 128 0 72 plain numbers
  | none => insertAll 128 0 72 [] cs

end SoloMining.Url.Punycode
