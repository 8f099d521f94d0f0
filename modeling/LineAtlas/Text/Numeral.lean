/-!
# Decimal numerals

Whole numbers as the decimal digits `0` to `9`.  The readers take an optional sign and at least one digit, nothing
else, and refuse a value outside the given bounds; `ofNat` writes a number without leading zeros.
-/

namespace LineAtlas.Numeral

/-- The largest line or column number, `2 ^ 32 - 1`. -/
def lineLimit : Nat := 4294967295

/-- The largest offset or identifier, `2 ^ 64 - 1`. -/
def wordLimit : Nat := 18446744073709551615

/-- The number of words with a sign and 63 bits that are not negative, `2 ^ 63`. -/
def signedRange : Nat := 9223372036854775808

/-- The number that a decimal digit stands for. -/
def digit (c : Char) : Nat := c.toNat - '0'.toNat

/-- The value of a hexadecimal digit. -/
def hexDigit? (c : Char) : Option Nat :=
  if c.isDigit then some (c.toNat - '0'.toNat)
  else if 'a' ≤ c && c ≤ 'f' then some (c.toNat - 'a'.toNat + 10)
  else if 'A' ≤ c && c ≤ 'F' then some (c.toNat - 'A'.toNat + 10)
  else none

/-- The number that one or more digits below a base stand for, most significant digit first. -/
def inBase? (base : Nat) (cs : List Char) : Option Nat :=
  if cs.isEmpty then none
  else cs.foldlM (fun n c => ((hexDigit? c).filter (· < base)).map (base * n + ·)) 0

/-- The number that decimal digits stand for, most significant digit first. -/
def value (cs : List Char) : Nat :=
  cs.foldl (fun n c => 10 * n + digit c) 0

/-- One or more digits, as a number. -/
def natural? (cs : List Char) : Option Nat :=
  if cs.isEmpty || !cs.all Char.isDigit then none else some (value cs)

/-- A number from zero to `limit`; a plus sign may stand before its digits. -/
def unsigned? (limit : Nat) (cs : List Char) : Option Nat :=
  let magnitude := match cs with
    | '+' :: digits => natural? digits
    | digits => natural? digits
  magnitude.filter (· ≤ limit)

/-- A number from `-2 ^ 63` to `2 ^ 63 - 1`; a plus or a minus sign may stand before its digits. -/
def signed? (cs : List Char) : Option Int :=
  match cs with
  | '-' :: digits => ((natural? digits).filter (· ≤ signedRange)).map fun n => -(n : Int)
  | '+' :: digits => ((natural? digits).filter (· < signedRange)).map Int.ofNat
  | digits => ((natural? digits).filter (· < signedRange)).map Int.ofNat

/-- The decimal digits of a number. -/
def chars (n : Nat) : List Char := Nat.toDigits 10 n

/-- A number as decimal text. -/
def ofNat (n : Nat) : String := String.ofList (chars n)

/-- A number as decimal text, a minus sign before its digits where it is negative. -/
def ofInt (n : Int) : String :=
  if n < 0 then "-" ++ ofNat n.natAbs else ofNat n.natAbs

end LineAtlas.Numeral
