/-! The shortest decimal text of a finite 64-bit float: of all decimals that read back as the same
float, one with the fewest digits and then nearest to it, an exact tie going to the even digit.
The search is exact, in natural numbers. -/
namespace SoloMining.Decimal

/-- A positive float as `mantissa * 2 ^ exponent`. -/
structure Binary where
  mantissa : Nat
  exponent : Int
deriving DecidableEq

def fractionBits : Nat := Nat.pow 2 52

def Binary.ofBits (bits : UInt64) : Binary :=
  let field := (bits.toNat / fractionBits) % 2048
  let fraction := bits.toNat % fractionBits
  if field = 0 then ⟨fraction, -1074⟩ else ⟨fractionBits + fraction, (field : Int) - 1075⟩

/-- The real numbers that round to a float, with the float itself; the ends belong to it exactly
when the mantissa is even. All three share one denominator. -/
structure Interval where
  lower : Nat
  value : Nat
  upper : Nat
  denominator : Nat
  closed : Bool

def Binary.interval (b : Binary) : Interval :=
  let below := if b.mantissa = fractionBits ∧ b.exponent ≠ -1074 then 1 else 2
  let quarter := b.exponent - 2
  let scale := Nat.pow 2 quarter.toNat
  ⟨(4 * b.mantissa - below) * scale, 4 * b.mantissa * scale, (4 * b.mantissa + 2) * scale,
   Nat.pow 2 (-quarter).toNat, b.mantissa % 2 = 0⟩

def leadingPower (value denominator : Nat) : (fuel k : Nat) → Nat
  | 0, k => k
  | fuel + 1, k =>
    if denominator ≤ value * Nat.pow 10 k then k else leadingPower value denominator fuel (k + 1)

def Interval.magnitude (i : Interval) : Int :=
  if i.denominator ≤ i.value then
    ((Nat.toDigits 10 (i.value / i.denominator)).length : Int) - 1
  else -(leadingPower i.value i.denominator 400 1 : Int)

def Interval.contains (i : Interval) (digits : Nat) (exponent : Int) : Bool :=
  let x := digits * Nat.pow 10 exponent.toNat * i.denominator
  let scale := Nat.pow 10 (-exponent).toNat
  if i.closed then i.lower * scale ≤ x && x ≤ i.upper * scale
  else i.lower * scale < x && x < i.upper * scale

/-- The nearer neighbour of the float on the grid of multiples of `10 ^ exponent`, if one of the
two rounds to the float. -/
def Interval.onGrid (i : Interval) (exponent : Int) : Option Nat :=
  let numerator := i.value * Nat.pow 10 (-exponent).toNat
  let step := i.denominator * Nat.pow 10 exponent.toNat
  let down := numerator / step
  let excess := numerator % step
  match i.contains down exponent, i.contains (down + 1) exponent with
  | false, false => none
  | true, false => some down
  | false, true => some (down + 1)
  | true, true =>
    if 2 * excess < step then some down
    else if step < 2 * excess then some (down + 1)
    else if down % 2 = 0 then some down else some (down + 1)

/-- Tries one digit, then two, and so on; seventeen always suffice. -/
def Interval.search (i : Interval) (magnitude : Int) : (fuel count : Nat) → Nat × Int
  | 0, count =>
    let exponent := magnitude - count + 1
    (i.value * Nat.pow 10 (-exponent).toNat / (i.denominator * Nat.pow 10 exponent.toNat), exponent)
  | fuel + 1, count =>
    let exponent := magnitude - count + 1
    match i.onGrid exponent with
    | some digits => (digits, exponent)
    | none => search i magnitude fuel (count + 1)

def stripZeros : (fuel : Nat) → Nat × Int → Nat × Int
  | 0, d => d
  | fuel + 1, (digits, exponent) =>
    if digits ≠ 0 ∧ digits % 10 = 0 then stripZeros fuel (digits / 10, exponent + 1)
    else (digits, exponent)

def shortest (b : Binary) : Nat × Int :=
  let i := b.interval
  stripZeros 20 (i.search i.magnitude 17 1)

/-- How a float is laid out: the powers of ten of the first digit that are written positionally. -/
structure Layout where
  leastPositional : Int
  greatestPositional : Int

/-- Positional from 10^-5 up to below 10^16, always with a decimal point; otherwise one digit, the
others behind a point, and a signed exponent. -/
def Layout.standard : Layout := ⟨-5, 15⟩

def zeros (n : Nat) : List Char := List.replicate n '0'

def Layout.write (layout : Layout) (digits : Nat) (exponent : Int) : List Char :=
  let ds := Nat.toDigits 10 digits
  let first := exponent + (ds.length : Int) - 1
  if layout.leastPositional ≤ first ∧ first ≤ layout.greatestPositional then
    if 0 ≤ exponent then ds ++ zeros exponent.toNat ++ ['.', '0']
    else if 0 ≤ first then
      ds.take (first.toNat + 1) ++ '.' :: ds.drop (first.toNat + 1)
    else '0' :: '.' :: zeros (-first - 1).toNat ++ ds
  else
    let tail := if ds.length = 1 then [] else '.' :: ds.drop 1
    let sign := if first < 0 then '-' else '+'
    ds.take 1 ++ tail ++ 'e' :: sign :: Nat.toDigits 10 first.natAbs

def writeFloat (x : Float) : List Char :=
  let bits := x.toBits
  let sign := if bits >>> 63 = 1 then ['-'] else []
  let size := bits &&& 0x7FFFFFFFFFFFFFFF
  if size = 0 then sign ++ ['0', '.', '0']
  else
    let (digits, exponent) := shortest (Binary.ofBits size)
    sign ++ Layout.standard.write digits exponent

end SoloMining.Decimal
