import LineAtlas.Json.Fault

/-!
# Reading JSON numbers

A whole number that fits 64 bits stays an integer.  Any other number is gathered into a significand below `2 ^ 64` and
a power of ten: once another digit would not fit, further whole digits only raise the power and further digits of the
fraction are passed over.  The significand is then multiplied or divided by the power of ten in binary64, which is
rounded once more than the nearest value would be.
-/

namespace LineAtlas.Json

open Binary64 (Magnitude)
open Numeral (digit wordLimit)

/-- The largest exponent that is counted exactly. -/
def exponentLimit : Nat := 2147483647

/-- Takes digits as long as the number stays within a limit: the number, how many digits were taken, and the rest. -/
def takeDigits (limit : Nat) (n count : Nat) (place : Place) : List Char → Nat × Nat × Cursor
  | [] => (n, count, ⟨[], place⟩)
  | c :: rest =>
    if c.isDigit && 10 * n + digit c ≤ limit then takeDigits limit (10 * n + digit c) (count + 1) (place.after c) rest
    else (n, count, ⟨c :: rest, place⟩)

/-- Passes over digits and counts them. -/
def passDigits (count : Nat) (place : Place) : List Char → Nat × Cursor
  | [] => (count, ⟨[], place⟩)
  | c :: rest => if c.isDigit then passDigits (count + 1) (place.after c) rest else (count, ⟨c :: rest, place⟩)

/-- Whether a digit comes next. -/
def Cursor.atDigit (cur : Cursor) : Bool :=
  match cur.rest with
  | c :: _ => c.isDigit
  | [] => false

/-- The binary64 power of ten, for exponents up to 308. -/
def powerOfTen (exponent : Nat) : Magnitude := (Binary64.ofNat (Binary64.tenPow exponent)).getD .zero

/-- A significand times a power of ten; none where that is infinite.  Below `1e-308` the significand is first divided
by `1e308`: after a second such division nothing is left of it. -/
def scale (significand : Nat) (exponent : Int) : Option Magnitude := do
  let f ← Binary64.ofNat significand
  if 308 < exponent then
    if f.mantissa = 0 then some f else none
  else if 0 ≤ exponent then f.mul (powerOfTen exponent.toNat)
  else if -308 ≤ exponent then f.div (powerOfTen (-exponent).toNat)
  else if -616 ≤ exponent then
    let g ← f.div (powerOfTen 308)
    g.div (powerOfTen (-exponent - 308).toNat)
  else some .zero

/-- The real number with the given parts, read up to a cursor. -/
def realAt (negative : Bool) (significand : Nat) (exponent : Int) (cur : Cursor) : Result Value :=
  match scale significand exponent with
  | some size => .ok (.real negative size, cur)
  | none => failAt .numberTooLarge cur.place

/-- Reads the digits of an exponent, the first of which is given, and closes the number. -/
def exponentDigits (negative : Bool) (significand : Nat) (start : Int) (falling : Bool) (first : Nat) (place : Place)
    (rest : List Char) : Result Value :=
  let (exponent, _, cur) := takeDigits exponentLimit first 0 place rest
  match cur.rest with
  | c :: more =>
    if c.isDigit then
      if significand ≠ 0 && !falling then failAt .numberTooLarge (cur.place.after c)
      else .ok (.real negative .zero, (passDigits 0 (cur.place.after c) more).2)
    else realAt negative significand (if falling then start - exponent else start + exponent) cur
  | [] => realAt negative significand (if falling then start - exponent else start + exponent) cur

/-- Reads an exponent after its letter. -/
def exponentPart (negative : Bool) (significand : Nat) (start : Int) (place : Place) (rest : List Char) :
    Result Value :=
  let (falling, place, rest) := match rest with
    | '+' :: more => (false, place.after '+', more)
    | '-' :: more => (true, place.after '-', more)
    | _ => (false, place, rest)
  match rest with
  | [] => failAt .endInValue place
  | c :: more =>
    if c.isDigit then exponentDigits negative significand start falling (digit c) (place.after c) more
    else failAt .badNumber (place.within c)

/-- Closes a number whose digits are read, with an exponent if one follows. -/
def closeReal (negative : Bool) (significand : Nat) (exponent : Int) (cur : Cursor) : Result Value :=
  match cur.rest with
  | c :: more =>
    if c = 'e' || c = 'E' then exponentPart negative significand exponent (cur.place.after c) more
    else realAt negative significand exponent cur
  | [] => realAt negative significand exponent cur

/-- Reads a fraction after its point. -/
def fractionPart (negative : Bool) (significand : Nat) (start : Int) (place : Place) (rest : List Char) :
    Result Value :=
  let (n, count, cur) := takeDigits wordLimit significand 0 place rest
  if cur.atDigit then closeReal negative n (start - count) (passDigits 0 cur.place cur.rest).2
  else if count = 0 then
    match cur.rest with
    | c :: _ => failAt .badNumber (cur.place.within c)
    | [] => failAt .endInValue cur.place
  else closeReal negative n (start - count) cur

/-- Closes a number whose whole part is read and does not fit 64 bits or has an exponent from its digits. -/
def afterWhole (negative : Bool) (significand : Nat) (exponent : Int) (cur : Cursor) : Result Value :=
  match cur.rest with
  | '.' :: more => fractionPart negative significand exponent (cur.place.after '.') more
  | _ => closeReal negative significand exponent cur

/-- A whole number: negative zero and negative numbers below `-2 ^ 63` are real. -/
def wholeNumber (negative : Bool) (n : Nat) (cur : Cursor) : Result Value :=
  if !negative then .ok (.integer n, cur)
  else if n = 0 || Numeral.signedRange < n then realAt true n 0 cur
  else .ok (.integer (-(n : Int)), cur)

/-- Closes a number whose whole part fits 64 bits. -/
def afterDigits (negative : Bool) (n : Nat) (cur : Cursor) : Result Value :=
  match cur.rest with
  | c :: _ => if c = '.' || c = 'e' || c = 'E' then afterWhole negative n 0 cur else wholeNumber negative n cur
  | [] => wholeNumber negative n cur

/-- Reads a number after its sign. -/
def number (negative : Bool) (cur : Cursor) : Result Value :=
  match cur.rest with
  | [] => failAt .endInValue cur.place
  | c :: rest =>
    let place := cur.place.after c
    if c = '0' then
      match rest with
      | d :: _ =>
        if d.isDigit then failAt .badNumber (place.within d) else afterDigits negative 0 ⟨rest, place⟩
      | [] => afterDigits negative 0 ⟨rest, place⟩
    else if c.isDigit then
      let (n, _, next) := takeDigits wordLimit (digit c) 0 place rest
      if next.atDigit then
        let (count, next) := passDigits 0 next.place next.rest
        afterWhole negative n count next
      else afterDigits negative n next
    else failAt .badNumber (cur.place.within c)

end LineAtlas.Json
