import LineAtlas.Binary64.Basic
import LineAtlas.Text.Numeral

/-!
# Decimal literals

A decimal literal is an optional sign, digits with an optional point among, before or after them, and an optional
exponent; at least one digit stands outside the exponent, and at least one in it.  Its exact value is
`digits * 10 ^ exponent`, and its binary64 value is the nearest one.
-/

namespace LineAtlas.Binary64

/-- The exact value of a decimal literal. -/
structure Literal where
  negative : Bool
  digits : Nat
  exponent : Int
  deriving DecidableEq, Repr

/-- The exponent after its letter. -/
def exponent? (cs : List Char) : Option Int :=
  match cs with
  | '-' :: rest => (Numeral.natural? rest).map fun n => -(n : Int)
  | '+' :: rest => (Numeral.natural? rest).map Int.ofNat
  | rest => (Numeral.natural? rest).map Int.ofNat

/-- The exponent with its letter; zero where there is none. -/
def exponentPart? (cs : List Char) : Option Int :=
  match cs with
  | [] => some 0
  | c :: rest => if c = 'e' || c = 'E' then exponent? rest else none

/-- The digits at the front of a text, and what follows them. -/
def spanDigits (cs : List Char) : List Char × List Char := cs.span Char.isDigit

/-- Reads a decimal literal after its sign. -/
def unsignedLiteral? (negative : Bool) (cs : List Char) : Option Literal := do
  let (whole, rest) := spanDigits cs
  let (fraction, rest) := match rest with
    | '.' :: more => spanDigits more
    | _ => ([], rest)
  guard (!(whole.isEmpty && fraction.isEmpty))
  let exponent ← exponentPart? rest
  return ⟨negative, Numeral.value (whole ++ fraction), exponent - fraction.length⟩

/-- Reads a decimal literal. -/
def literal? (cs : List Char) : Option Literal :=
  match cs with
  | '-' :: rest => unsignedLiteral? true rest
  | '+' :: rest => unsignedLiteral? false rest
  | rest => unsignedLiteral? false rest

/-- The binary64 magnitude nearest to a literal; none where that is infinite. -/
def Literal.magnitude? (l : Literal) : Option Magnitude := ofDecimal l.digits l.exponent

end LineAtlas.Binary64
