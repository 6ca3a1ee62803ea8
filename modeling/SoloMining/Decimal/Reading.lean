/-! Reading a decimal as a float in at most two roundings: the leading digits that fit in 64 bits
become a float, which is then multiplied or divided by a power of ten. -/
namespace SoloMining.Decimal

def digitsValue (cs : List Char) : Nat := cs.foldl (fun n c => 10 * n + (c.toNat - 48)) 0

def appendDigits (significand : Nat) : List Char → Nat × List Char
  | [] => (significand, [])
  | c :: rest =>
    let next := 10 * significand + (c.toNat - 48)
    if next < UInt64.size then appendDigits next rest else (significand, c :: rest)

def powerOfTen (n : Nat) : Float := Float.ofScientific 1 false n

def scale (significand : Nat) (exponent : Int) : Option Float :=
  let f := significand.toUInt64.toFloat
  if significand = 0 then some 0.0
  else if exponent > 308 then none
  else if exponent ≥ 0 then
    let x := f * powerOfTen exponent.toNat
    if x.isInf then none else some x
  else if exponent ≥ -308 then some (f / powerOfTen (-exponent).toNat)
  else if exponent ≥ -616 then some (f / powerOfTen 308 / powerOfTen (-exponent - 308).toNat)
  else some 0.0

/-- Integer digits that do not fit count as powers of ten, fraction digits that do not fit are
dropped. -/
def toFloat? (negative : Bool) (whole fraction : List Char) (exponent : Int) : Option Float :=
  let (high, overflow) := appendDigits 0 whole
  let (significand, dropped) := appendDigits high fraction
  let used := fraction.length - dropped.length
  let power := (overflow.length : Int) - used + exponent
  (scale significand power).map fun x => if negative then -x else x

end SoloMining.Decimal
