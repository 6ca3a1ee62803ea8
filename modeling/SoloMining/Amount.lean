import SoloMining.Text.Radix

/-! Amounts of money. Blocks count base units, people read coins. -/
namespace SoloMining.Amount

def unitsPerCoin : Nat := 100000000

def render (units : UInt64) : String :=
  Text.decimal (units.toNat / unitsPerCoin) ++ "."
    ++ Text.paddedDecimal 8 (units.toNat % unitsPerCoin)

end SoloMining.Amount
