import LineAtlas.Binary64.Basic
import LineAtlas.Text.Numeral

/-!
# The shortest decimal of a magnitude

Of the decimals that round to a given magnitude, `shortest` finds one with the fewest digits, and of these the one
nearest to it.  For each number of digits only the two neighbours of the magnitude on that decimal grid can qualify:
where a grid point rounds to the magnitude, so does one of them.
-/

namespace LineAtlas.Binary64

/-- The decimal number `digits * 10 ^ exponent`. -/
structure Decimal where
  digits : Nat
  exponent : Int
  deriving DecidableEq, Repr

/-- The reals that round to a magnitude, in units of `1 / scale`: from `low` to `high`, both ends included where
`closed`, around `centre`. -/
structure Interval where
  low : Nat
  centre : Nat
  high : Nat
  scale : Nat
  closed : Bool
  deriving DecidableEq, Repr

/-- The interval of a magnitude: half a unit of the last place on either side, and a quarter below a power of two. -/
def Magnitude.interval (a : Magnitude) : Interval :=
  let unit := twoPow (a.exponent - 2).toNat
  let below := if a.mantissa = twoPow 52 && minExponent < a.exponent then 1 else 2
  { low := (4 * a.mantissa - below) * unit
    centre := 4 * a.mantissa * unit
    high := (4 * a.mantissa + 2) * unit
    scale := twoPow (2 - a.exponent).toNat
    closed := a.mantissa % 2 = 0 }

/-- The exponent of the leading decimal digit of `num / den`. -/
def leadingExponent (num den : Nat) : Int :=
  if den ≤ num then ((Numeral.chars (num / den)).length : Int) - 1
  else
    let k := (Numeral.chars (den / num)).length
    if den = num * tenPow (k - 1) then 1 - (k : Int) else -(k : Int)

/-- Whether `point` units of `10 ^ exponent` lie in an interval. -/
def Interval.holds (i : Interval) (point : Nat) (exponent : Int) : Bool :=
  let here := point * tenPow exponent.toNat * i.scale
  let size := tenPow (-exponent).toNat
  if i.closed then i.low * size ≤ here && here ≤ i.high * size
  else i.low * size < here && here < i.high * size

/-- The neighbour of the interval's centre on the grid of `10 ^ exponent` that lies in the interval, the nearer one
where both do, and the even one where both are equally near. -/
def Interval.onGrid? (i : Interval) (exponent : Int) : Option Nat :=
  let num := i.centre * tenPow (-exponent).toNat
  let den := i.scale * tenPow exponent.toNat
  let floor := num / den
  let nearer := roundDiv num den
  let other := if nearer = floor then floor + 1 else floor
  if i.holds nearer exponent then some nearer
  else if i.holds other exponent then some other
  else none

/-- The first grid, from coarse to fine, with a point in the interval. -/
def Interval.search (i : Interval) : Nat → Int → Option Decimal
  | 0, _ => none
  | fuel + 1, exponent =>
    match i.onGrid? exponent with
    | some digits => some ⟨digits, exponent⟩
    | none => i.search fuel (exponent - 1)

/-- A decimal without the zeros at the end of its digits. -/
def Decimal.strip : Nat → Decimal → Decimal
  | 0, d => d
  | fuel + 1, d => if d.digits % 10 = 0 && d.digits ≠ 0 then Decimal.strip fuel ⟨d.digits / 10, d.exponent + 1⟩ else d

/-- The shortest decimal that rounds to a magnitude; seventeen digits always reach it. -/
def Magnitude.shortest (a : Magnitude) : Decimal :=
  if a.mantissa = 0 then ⟨0, 0⟩
  else
    let i := a.interval
    let found := i.search 18 (leadingExponent i.centre i.scale)
    (found.getD ⟨0, 0⟩).strip 20

end LineAtlas.Binary64
