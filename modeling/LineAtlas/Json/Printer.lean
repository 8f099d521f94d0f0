import LineAtlas.Json.Value
import LineAtlas.Binary64.Shortest

/-!
# JSON text

`compact` writes a value without blanks; `pretty` puts every item and field on a line of its own, two blanks deeper
than its bracket, and leaves empty brackets closed.  A real number has the fewest digits that read back; it is
positional from `1e-5` up to below `1e16`, always with a point, and has a signed exponent elsewhere.
-/

namespace LineAtlas.Json

open Binary64 (Magnitude)

/-- A hexadecimal digit in lower case. -/
def hexDigit (n : Nat) : Char := Nat.digitChar n

/-- A character inside a written string. -/
def escapeChar (c : Char) : List Char :=
  if c = '"' then ['\\', '"']
  else if c = '\\' then ['\\', '\\']
  else if c = '\x08' then ['\\', 'b']
  else if c = '\x0c' then ['\\', 'f']
  else if c = '\n' then ['\\', 'n']
  else if c = '\r' then ['\\', 'r']
  else if c = '\t' then ['\\', 't']
  else if c.toNat < 0x20 then ['\\', 'u', '0', '0', hexDigit (c.toNat / 16), hexDigit (c.toNat % 16)]
  else [c]

/-- The characters of a string between its quotes. -/
def escape (cs : List Char) : List Char := cs.flatMap escapeChar

/-- A text as a JSON string. -/
def quote (s : String) : String := String.ofList ('"' :: escape s.toList ++ ['"'])

/-- The digits of a magnitude with a point or an exponent. -/
def realChars (size : Magnitude) : List Char :=
  let d := size.shortest
  let digits := Numeral.chars d.digits
  let count : Int := digits.length
  let point := count + d.exponent
  if d.digits = 0 then ['0', '.', '0']
  else if 0 ≤ d.exponent && point ≤ 16 then digits ++ List.replicate d.exponent.toNat '0' ++ ['.', '0']
  else if 0 < point && point ≤ 16 then digits.take point.toNat ++ '.' :: digits.drop point.toNat
  else if -5 < point && point ≤ 0 then ['0', '.'] ++ List.replicate (-point).toNat '0' ++ digits
  else
    let exponent := point - 1
    let sign := if exponent < 0 then '-' else '+'
    let fraction := if digits.length = 1 then [] else '.' :: digits.drop 1
    digits.take 1 ++ fraction ++ 'e' :: sign :: Numeral.chars exponent.natAbs

/-- A real number as text. -/
def realText (negative : Bool) (size : Magnitude) : String :=
  String.ofList (if negative then '-' :: realChars size else realChars size)

mutual

/-- A value without blanks. -/
def Value.compact : Value → String
  | .null => "null"
  | .bool b => if b then "true" else "false"
  | .integer n => Numeral.ofInt n
  | .real negative size => realText negative size
  | .string s => quote s
  | .array items => "[" ++ ",".intercalate (compactItems items) ++ "]"
  | .object fields => "\x7b" ++ ",".intercalate (compactFields fields) ++ "\x7d"

/-- The texts of some items. -/
def compactItems : List Value → List String
  | [] => []
  | v :: rest => v.compact :: compactItems rest

/-- The texts of some fields. -/
def compactFields : List (String × Value) → List String
  | [] => []
  | (name, v) :: rest => (quote name ++ ":" ++ v.compact) :: compactFields rest

end

/-- The start of a line at a given depth. -/
def newline (depth : Nat) : String := String.ofList ('\n' :: List.replicate (2 * depth) ' ')

/-- Parts between brackets, each on a line of its own. -/
def enclose (opening closing : String) (depth : Nat) (parts : List String) : String :=
  if parts.isEmpty then opening ++ closing
  else
    opening ++ newline (depth + 1) ++ ("," ++ newline (depth + 1)).intercalate parts ++ newline depth ++ closing

mutual

/-- A value over several lines, its own brackets at the given depth. -/
def Value.prettyAt (depth : Nat) : Value → String
  | .null => "null"
  | .bool b => if b then "true" else "false"
  | .integer n => Numeral.ofInt n
  | .real negative size => realText negative size
  | .string s => quote s
  | .array items => enclose "[" "]" depth (prettyItems (depth + 1) items)
  | .object fields => enclose "\x7b" "\x7d" depth (prettyFields (depth + 1) fields)

/-- The texts of some items over several lines. -/
def prettyItems (depth : Nat) : List Value → List String
  | [] => []
  | v :: rest => v.prettyAt depth :: prettyItems depth rest

/-- The texts of some fields over several lines. -/
def prettyFields (depth : Nat) : List (String × Value) → List String
  | [] => []
  | (name, v) :: rest => (quote name ++ ": " ++ v.prettyAt depth) :: prettyFields depth rest

end

/-- A value over several lines. -/
def Value.pretty (v : Value) : String := v.prettyAt 0

end LineAtlas.Json
