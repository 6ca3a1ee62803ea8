import SoloMining.Random.ChaCha

/-! Drawing numbers below one hundred from a stream of random words. -/
namespace SoloMining

structure Dice where
  stream : Random.Stream
  taken : Nat

namespace Dice

def ofSeed (seed : UInt64) : Dice := ⟨Random.ofSeed seed, 0⟩

/-- The product with a word is spread evenly over the range; the low half decides whether a second
word is needed to correct the bias. -/
def roll (dice : Dice) (sides : Nat) : Nat × Dice :=
  let product := (dice.stream dice.taken).toNat * sides
  let high := product / UInt32.size
  let low := product % UInt32.size
  if UInt32.size - sides < low then
    let second := (dice.stream (dice.taken + 1)).toNat * sides / UInt32.size
    (if UInt32.size ≤ low + second then high + 1 else high, ⟨dice.stream, dice.taken + 2⟩)
  else (high, ⟨dice.stream, dice.taken + 1⟩)

end Dice

end SoloMining
