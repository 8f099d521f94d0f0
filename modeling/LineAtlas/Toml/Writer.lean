import LineAtlas.Toml.Text

/-!
# Writing TOML texts

A text is written in the first of four forms that needs no escapes for it, tabs aside: between double quotes, between
single quotes, as a block in double quotes, as a block in single quotes.  Where each needs escapes, the text stands
between double quotes, as a block if it has several lines.  A block of several lines begins on a line of its own.
-/

namespace LineAtlas.Toml

/-- The ways of writing a text. -/
inductive Form where
  | basic
  | literal
  | block
  | literalBlock
  deriving DecidableEq, Repr

/-- The characters, other than the line feed and the tab, that only an escape can stand for. -/
def isControl (c : Char) : Bool := c.toNat < 0x20 && c ≠ '\n' && c ≠ '\t' || c.toNat = 0x7F

/-- The run of a character at the front of a text, and the longest run in it. -/
def runs (c : Char) : List Char → Nat × Nat
  | [] => (0, 0)
  | d :: rest =>
    let (front, longest) := runs c rest
    if d = c then (front + 1, max longest (front + 1)) else (0, longest)

/-- The longest run of a character in a text. -/
def longestRun (c : Char) (cs : List Char) : Nat := (runs c cs).2

/-- The form in which a text is written. -/
def formOf (cs : List Char) : Form :=
  let control := cs.any isControl
  let lines := cs.contains '\n'
  if !control && !cs.contains '\\' && !cs.contains '"' && !lines then .basic
  else if !control && !cs.contains '\'' && !lines then .literal
  else if !control && !cs.contains '\\' && longestRun '"' cs ≤ 2 then .block
  else if !control && longestRun '\'' cs ≤ 2 then .literalBlock
  else if lines then .block
  else .basic

/-- A hexadecimal digit in upper case. -/
def upperHex (n : Nat) : Char := (Nat.digitChar n).toUpper

/-- A character between double quotes, but for the quote itself and the line feed. -/
def escapeChar (c : Char) : List Char :=
  if c = '\\' then ['\\', '\\']
  else if c = '\x08' then ['\\', 'b']
  else if c = '\t' then ['\\', 't']
  else if c = '\x0c' then ['\\', 'f']
  else if c = '\r' then ['\\', 'r']
  else if isControl c then ['\\', 'u', '0', '0', upperHex (c.toNat / 16), upperHex (c.toNat % 16)]
  else [c]

/-- A character of a text between double quotes on one line. -/
def escapeOnLine (c : Char) : List Char :=
  if c = '"' then ['\\', '"'] else if c = '\n' then ['\\', 'n'] else escapeChar c

/-- The characters of a block in double quotes, after so many quotes in a row: every third quote is escaped. -/
def escapeInBlock : Nat → List Char → List Char
  | _, [] => []
  | quotes, c :: rest =>
    if c = '"' then
      if 2 ≤ quotes then '\\' :: '"' :: escapeInBlock 0 rest else '"' :: escapeInBlock (quotes + 1) rest
    else if c = '\n' then '\n' :: escapeInBlock 0 rest
    else escapeChar c ++ escapeInBlock 0 rest

/-- Characters between quotes. -/
def enclose (quotes content : List Char) : List Char := quotes ++ content ++ quotes

/-- A block between quotes, which begins on a line of its own where it has several lines. -/
def encloseBlock (quote : Char) (content : List Char) : List Char :=
  enclose [quote, quote, quote] (if content.contains '\n' then '\n' :: content else content)

/-- A text as it is written. -/
def writeChars (cs : List Char) : List Char :=
  match formOf cs with
  | .basic => enclose ['"'] (cs.flatMap escapeOnLine)
  | .literal => enclose ['\''] cs
  | .block => encloseBlock '"' (escapeInBlock 0 cs)
  | .literalBlock => encloseBlock '\'' cs

/-- A text as it is written. -/
def writeText (s : String) : String := String.ofList (writeChars s.toList)

/-- A line that names a text. -/
def writeLine (key value : String) : String := key ++ " = " ++ writeText value ++ "\n"

end LineAtlas.Toml
