import LineAtlas.Binary64.Literal
import LineAtlas.Text.Lines
import LineAtlas.Toml.Text

/-!
# TOML scalars

Numbers, truth values, dates and times are words of letters, digits and a few signs.  In a number, single underscores
may stand between digits; a whole number fits 64 bits, and a real number is not rounded to positive infinity.  A date
is one of the calendar; a time may follow it after a letter `T` or after a blank, and then an offset.
-/

namespace LineAtlas.Toml

/-- The characters of the words that are scalars. -/
def isWordChar (c : Char) : Bool := c.isAlphanum || c = '_' || c = '+' || c = '-' || c = '.' || c = ':'

/-- Digits with single underscores between them, without the underscores. -/
def ungroup? (isDigit : Char → Bool) (cs : List Char) : Option (List Char) :=
  let groups := Text.splitAt '_' cs
  if groups.all fun group => !group.isEmpty && group.all isDigit then some groups.flatten else none

/-- A sign that may stand in front of a number: whether it is a minus sign, and the rest. -/
def splitSign : List Char → Bool × List Char
  | '-' :: rest => (true, rest)
  | '+' :: rest => (false, rest)
  | cs => (false, cs)

/-! ### Numbers -/

/-- The digits of a whole number, which does not begin with a zero unless it is the only digit. -/
def wholeDigits? (cs : List Char) : Option (List Char) :=
  (ungroup? Char.isDigit cs).filter fun digits => digits.length = 1 || digits.head? ≠ some '0'

/-- Whether a word is a decimal whole number of 64 bits. -/
def isDecimalInteger (cs : List Char) : Bool :=
  let (negative, digits) := splitSign cs
  ((wholeDigits? digits).bind (Numeral.inBase? 10)).any fun n => if negative then n ≤ Numeral.signedRange else n < Numeral.signedRange

/-- Whether a word is a whole number of 64 bits in a base that is given by a letter. -/
def isBasedInteger : List Char → Bool
  | '0' :: letter :: digits =>
    let base := match letter with
      | 'x' => some 16
      | 'o' => some 8
      | 'b' => some 2
      | _ => none
    base.any fun base =>
      ((ungroup? (fun c => (Numeral.hexDigit? c).isSome) digits).bind (Numeral.inBase? base)).any (· < Numeral.signedRange)
  | _ => false

/-- Whether the parts of a real number fit together and do not stand for positive infinity. -/
def isRealOf (negative : Bool) (whole : List Char) (fraction exponent : Option (List Char)) : Bool :=
  let exponentOf (cs : List Char) : Option Int :=
    let (minus, digits) := splitSign cs
    ((ungroup? Char.isDigit digits).bind (Numeral.inBase? 10)).map fun n => if minus then -(n : Int) else n
  match wholeDigits? whole, fraction.mapM (ungroup? Char.isDigit), exponent.mapM exponentOf with
  | some whole, some fraction, some exponent =>
    let digits := whole ++ fraction.getD []
    negative || (Binary64.ofDecimal (Numeral.value digits) (exponent.getD 0 - (fraction.getD []).length)).isSome
  | _, _, _ => false

/-- Whether a word is a real number: it has a fraction, an exponent, or both. -/
def isReal (cs : List Char) : Bool :=
  let (negative, unsigned) := splitSign cs
  let (digits, power) := unsigned.span fun c => c ≠ 'e' && c ≠ 'E'
  let exponent := if power.isEmpty then none else some (power.drop 1)
  match Text.splitAt '.' digits with
  | [whole] => exponent.isSome && isRealOf negative whole none exponent
  | [whole, fraction] => isRealOf negative whole (some fraction) exponent
  | _ => false

/-- Whether a word is an infinity or not a number. -/
def isSpecialReal (cs : List Char) : Bool :=
  let (_, name) := splitSign cs
  name = ['i', 'n', 'f'] || name = ['n', 'a', 'n']

/-! ### Dates and times -/

/-- A number of exactly as many decimal digits as given. -/
def numberOf? (digits : Nat) (cs : List Char) : Option Nat :=
  if cs.length = digits then Numeral.natural? cs else none

/-- The number of days of a month. -/
def daysOf (year month : Nat) : Nat :=
  if month = 2 then if year % 4 = 0 && (year % 100 ≠ 0 || year % 400 = 0) then 29 else 28
  else if month = 4 || month = 6 || month = 9 || month = 11 then 30
  else 31

/-- Whether a word is a date of the calendar. -/
def isDate (cs : List Char) : Bool :=
  match Text.splitAt '-' cs with
  | [year, month, day] =>
    match numberOf? 4 year, numberOf? 2 month, numberOf? 2 day with
    | some year, some month, some day => 1 ≤ month && month ≤ 12 && 1 ≤ day && day ≤ daysOf year month
    | _, _, _ => false
  | _ => false

/-- Whether two texts are an hour and a minute of it. -/
def isHourMinute (hour minute : List Char) : Bool :=
  (numberOf? 2 hour).any (· ≤ 23) && (numberOf? 2 minute).any (· ≤ 59)

/-- Whether a word is a time of day, which may have a fraction of a second. -/
def isTime (cs : List Char) : Bool :=
  match Text.splitAt ':' cs with
  | [hour, minute, second] =>
    let (whole, fraction) := second.span (· ≠ '.')
    isHourMinute hour minute && (numberOf? 2 whole).any (· ≤ 60) &&
      (fraction.isEmpty || (Numeral.natural? (fraction.drop 1)).isSome)
  | _ => false

/-- Whether a word is an offset from universal time in hours and minutes, after its sign. -/
def isOffset (cs : List Char) : Bool :=
  match Text.splitAt ':' cs with
  | [hour, minute] => isHourMinute hour minute
  | _ => false

/-- Whether a word is a time of day that may have an offset. -/
def isTimeWithOffset (cs : List Char) : Bool :=
  let (time, offset) := cs.span fun c => c.isDigit || c = ':' || c = '.'
  isTime time &&
    match offset with
    | [] => true
    | sign :: offset =>
      if sign = 'Z' || sign = 'z' then offset.isEmpty else (sign = '+' || sign = '-') && isOffset offset

/-- Whether a word is a date, a time, or a date and a time. -/
def isDateTime (cs : List Char) : Bool :=
  let (date, rest) := cs.span fun c => c ≠ 'T' && c ≠ 't'
  match rest with
  | [] => isDate cs || isTime cs
  | _ :: time => isDate date && isTimeWithOffset time

/-- The kind of scalar that a word is. -/
def kind? (cs : List Char) : Option Kind :=
  if cs = "true".toList || cs = "false".toList then some .boolean
  else if isDateTime cs then some .dateTime
  else if isReal cs || isSpecialReal cs then some .real
  else if isDecimalInteger cs || isBasedInteger cs then some .integer
  else none

/-- Reads a scalar; a date may be followed by a blank and a time. -/
def readScalar (cs : List Char) : Option (Value × List Char) :=
  let (word, rest) := cs.span isWordChar
  match kind? word with
  | none => none
  | some kind =>
    let (time, after) := (rest.drop 1).span isWordChar
    if isDate word && rest.head? = some ' ' && isTimeWithOffset time then some (.scalar kind, after)
    else some (.scalar kind, rest)

end LineAtlas.Toml
