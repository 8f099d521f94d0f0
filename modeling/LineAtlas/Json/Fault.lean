import LineAtlas.Json.Printer
import LineAtlas.Text.Quoted

/-!
# What is wrong with a JSON text

A fault has a cause and a place.  Lines count from one; columns count the bytes of a line that had been looked at, so
that a fault about a character lies after the first byte of that character, and a fault at the end of the text lies
after its last byte.
-/

namespace LineAtlas.Json

open Binary64 (Magnitude)

/-- A place between two bytes of a text. -/
structure Place where
  line : Nat
  column : Nat
  deriving DecidableEq, Repr

/-- The place before the first byte. -/
def Place.start : Place := ⟨1, 0⟩

/-- The place after a character. -/
def Place.after (p : Place) (c : Char) : Place :=
  if c = '\n' then ⟨p.line + 1, 0⟩ else ⟨p.line, p.column + c.utf8Size⟩

/-- The place after the first byte of a character. -/
def Place.within (p : Place) (c : Char) : Place :=
  if c = '\n' then ⟨p.line + 1, 0⟩ else ⟨p.line, p.column + 1⟩

/-- What was found where a value of another kind was wanted. -/
inductive Found where
  | null
  | bool (b : Bool)
  | integer (n : Int)
  | real (negative : Bool) (size : Magnitude)
  | string (s : String)
  | sequence
  | map
  deriving DecidableEq, Repr

/-- The kind of value that was wanted. -/
inductive Wanted where
  | sequence
  | string
  deriving DecidableEq, Repr

inductive Cause where
  | endInValue
  | endInList
  | endInObject
  | endInString
  | noValue
  | noWord
  | noColon
  | noListEnd
  | noObjectEnd
  | trailingComma
  | trailingText
  | keyNotString
  | badNumber
  | numberTooLarge
  | badEscape
  | trailSurrogateFirst
  | leadSurrogateAlone
  | controlCharacter
  | tooDeep
  | wrongKind (found : Found) (wanted : Wanted)
  deriving DecidableEq, Repr

structure Fault where
  cause : Cause
  place : Place
  deriving DecidableEq, Repr

def Found.text : Found → String
  | .null => "null"
  | .bool b => "boolean `" ++ (if b then "true" else "false") ++ "`"
  | .integer n => "integer `" ++ Numeral.ofInt n ++ "`"
  | .real negative size => "floating point `" ++ realText negative size ++ "`"
  | .string s => "string " ++ Text.quoted s
  | .sequence => "sequence"
  | .map => "map"

def Wanted.text : Wanted → String
  | .sequence => "a sequence"
  | .string => "a string"

def Cause.text : Cause → String
  | .endInValue => "EOF while parsing a value"
  | .endInList => "EOF while parsing a list"
  | .endInObject => "EOF while parsing an object"
  | .endInString => "EOF while parsing a string"
  | .noValue => "expected value"
  | .noWord => "expected ident"
  | .noColon => "expected `:`"
  | .noListEnd => "expected `,` or `]`"
  | .noObjectEnd => "expected `,` or `\x7d`"
  | .trailingComma => "trailing comma"
  | .trailingText => "trailing characters"
  | .keyNotString => "key must be a string"
  | .badNumber => "invalid number"
  | .numberTooLarge => "number out of range"
  | .badEscape => "invalid escape"
  | .trailSurrogateFirst => "lone leading surrogate in hex escape"
  | .leadSurrogateAlone => "unexpected end of hex escape"
  | .controlCharacter => "control character (\\u0000-\\u001F) found while parsing a string"
  | .tooDeep => "recursion limit exceeded"
  | .wrongKind found wanted => "invalid type: " ++ found.text ++ ", expected " ++ wanted.text

/-- The text of a fault, with its place. -/
def Fault.message (f : Fault) : String :=
  f.cause.text ++ " at line " ++ Numeral.ofNat f.place.line ++ " column " ++ Numeral.ofNat f.place.column

/-- What is left of a text, and the place where it begins. -/
structure Cursor where
  rest : List Char
  place : Place
  deriving DecidableEq, Repr

/-- A whole text. -/
def Cursor.ofString (s : String) : Cursor := ⟨s.toList, .start⟩

/-- The result of reading something from the front of a text. -/
abbrev Result (α : Type) := Except Fault (α × Cursor)

/-- A fault at the place that has been reached. -/
def failAt {α : Type} (cause : Cause) (place : Place) : Except Fault α := .error ⟨cause, place⟩

end LineAtlas.Json
