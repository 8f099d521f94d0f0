/-!
# Binary64 magnitudes

A finite binary64 magnitude is `mantissa * 2 ^ exponent` with a mantissa below `2 ^ 53` and an exponent from `-1074`
to `971`.  `ofRatio` gives the magnitude nearest to a quotient of natural numbers, a half going to the even mantissa,
and nothing where the nearest is infinite; products and quotients of magnitudes are rounded by the same rule.  All is
exact arithmetic on natural numbers.
-/

namespace LineAtlas.Binary64

/-- A power of two. -/
def twoPow (k : Nat) : Nat := Nat.pow 2 k

/-- A power of ten. -/
def tenPow (k : Nat) : Nat := Nat.pow 10 k

/-- The magnitude `mantissa * 2 ^ exponent`. -/
structure Magnitude where
  mantissa : Nat
  exponent : Int
  deriving DecidableEq, Repr

/-- The exponent of the smallest magnitudes. -/
def minExponent : Int := -1074

/-- The exponent of the largest magnitudes. -/
def maxExponent : Int := 971

/-- The magnitude zero. -/
def Magnitude.zero : Magnitude := ⟨0, minExponent⟩

/-- The whole number nearest to `num / den`, a half going to the even neighbour. -/
def roundDiv (num den : Nat) : Nat :=
  let q := num / den
  let r := num % den
  if 2 * r < den then q
  else if den < 2 * r then q + 1
  else if q % 2 = 0 then q
  else q + 1

/-- The exponent at which the mantissa of `num / den` has 53 bits, or the least exponent where it has fewer. -/
def exponentFor (num den : Nat) : Int :=
  let k : Int := (num.log2 : Int) - den.log2
  let reaches := den * twoPow k.toNat ≤ num * twoPow (-k).toNat
  max minExponent (if reaches then k - 52 else k - 53)

/-- The magnitude nearest to `num / den`; none where that is infinite. -/
def ofRatio (num den : Nat) : Option Magnitude :=
  if num = 0 then some .zero
  else
    let e := exponentFor num den
    let m := roundDiv (num * twoPow (-e).toNat) (den * twoPow e.toNat)
    let rounded : Magnitude := if m = twoPow 53 then ⟨twoPow 52, e + 1⟩ else ⟨m, e⟩
    if maxExponent < rounded.exponent then none else some rounded

/-- The magnitude nearest to a natural number; none where that is infinite. -/
def ofNat (n : Nat) : Option Magnitude := ofRatio n 1

/-- The product of two magnitudes, rounded. -/
def Magnitude.mul (a b : Magnitude) : Option Magnitude :=
  let e := a.exponent + b.exponent
  ofRatio (a.mantissa * b.mantissa * twoPow e.toNat) (twoPow (-e).toNat)

/-- The quotient of two magnitudes, rounded; the second is not zero. -/
def Magnitude.div (a b : Magnitude) : Option Magnitude :=
  let e := a.exponent - b.exponent
  ofRatio (a.mantissa * twoPow e.toNat) (b.mantissa * twoPow (-e).toNat)

/-- The magnitude nearest to `digits * 10 ^ exponent`; none where that is infinite.  A number far above the largest
or far below the smallest magnitude is settled without its power of ten. -/
def ofDecimal (digits : Nat) (exponent : Int) : Option Magnitude :=
  if digits = 0 then some .zero
  else if 400 < exponent then none
  else if exponent < -(400 + digits.log2 : Int) then some .zero
  else ofRatio (digits * tenPow exponent.toNat) (tenPow (-exponent).toNat)

/-- The natural number that a magnitude is, if it is one. -/
def Magnitude.toNat? (a : Magnitude) : Option Nat :=
  let den := twoPow (-a.exponent).toNat
  let num := a.mantissa * twoPow a.exponent.toNat
  if num % den = 0 then some (num / den) else none

end LineAtlas.Binary64
