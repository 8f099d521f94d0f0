import LineAtlas.Text.Numeral
import LineAtlas.Toml.Value

/-!
# TOML texts

A text stands between double quotes, where a backslash begins an escape, or between single quotes, where every
character stands for itself.  Three quotes on each side make a block, which may hold line ends and up to two quotes in a
row; the line end right after the opening quotes does not count, and a backslash at the end of a line of a block in
double quotes removes the blanks and line ends after it.  A line end is a line feed, or a carriage return and a line
feed, and is read as a line feed; other control characters than the tab cannot stand in a text.
-/

namespace LineAtlas.Toml

/-- The blanks inside a line. -/
def isBlank (c : Char) : Bool := c = ' ' || c = '\t'

/-- The characters that can stand in a comment and between single quotes, but for the single quote itself. -/
def isPlain (c : Char) : Bool := c = '\t' || 0x20 ≤ c.toNat && c.toNat ≠ 0x7F

/-- Whether the next character is a line feed. -/
def atLineFeed (cs : List Char) : Bool := cs.head? = some '\n'

/-- The text without a line end at its front. -/
def dropLineEnd : List Char → List Char
  | '\n' :: rest => rest
  | '\r' :: '\n' :: rest => rest
  | cs => cs

/-- Puts a character in front of what a reader has found. -/
def push (c : Char) (found : Option (List Char × List Char)) : Option (List Char × List Char) :=
  found.map fun (cs, rest) => (c :: cs, rest)

/-- The character that a letter after a backslash stands for. -/
def escape? (c : Char) : Option Char :=
  match c with
  | 'b' => some '\x08'
  | 't' => some '\t'
  | 'n' => some '\n'
  | 'f' => some '\x0c'
  | 'r' => some '\r'
  | '"' => some '"'
  | '\\' => some '\\'
  | _ => none

/-- How many hexadecimal digits follow a letter after a backslash. -/
def codeLength? (c : Char) : Option Nat :=
  if c = 'u' then some 4 else if c = 'U' then some 8 else none

/-- The character with a code. -/
def ofCode? (n : Nat) : Option Char := if n.isValidChar then some (Char.ofNat n) else none

/-! ### Texts on one line -/

/-- Reads up to the closing single quote. -/
def readLiteral : Reader (List Char)
  | [] => none
  | c :: rest =>
    if c = '\'' then some ([], rest)
    else if isPlain c then push c (readLiteral rest)
    else none

/-- Where between double quotes a character stands. -/
inductive Mode where
  | plain
  | escape
  /-- Inside the code of an escape, with the number of digits that are still to come but one, and its value so far. -/
  | code (left value : Nat)
  deriving DecidableEq, Repr

/-- Reads up to the closing double quote. -/
def readBasic : Mode → Reader (List Char)
  | _, [] => none
  | .plain, c :: rest =>
    if c = '"' then some ([], rest)
    else if c = '\\' then readBasic .escape rest
    else if isPlain c then push c (readBasic .plain rest)
    else none
  | .escape, c :: rest =>
    match codeLength? c with
    | some length => readBasic (.code (length - 1) 0) rest
    | none =>
      match escape? c with
      | some d => push d (readBasic .plain rest)
      | none => none
  | .code left value, c :: rest =>
    match Numeral.hexDigit? c, left with
    | none, _ => none
    | some d, left + 1 => readBasic (.code left (16 * value + d)) rest
    | some d, 0 =>
      match ofCode? (16 * value + d) with
      | some e => push e (readBasic .plain rest)
      | none => none

/-! ### Blocks -/

/-- The end of a block after its first closing quote: up to two quotes before the last three belong to the text. -/
def closeBlock? (quote : Char) : Reader (List Char)
  | a :: b :: rest =>
    if a = quote && b = quote then
      match rest with
      | c :: d :: more =>
        if c = quote && d = quote then some ([quote, quote], more)
        else if c = quote then some ([quote], d :: more)
        else some ([], rest)
      | [c] => if c = quote then some ([quote], []) else some ([], rest)
      | [] => some ([], [])
    else none
  | _ => none

/-- Reads up to the closing quotes of a block in single quotes. -/
def readLiteralBlock : Reader (List Char)
  | [] => none
  | c :: rest =>
    if c = '\'' then
      match closeBlock? '\'' rest with
      | some found => some found
      | none => push c (readLiteralBlock rest)
    else if c = '\r' then if atLineFeed rest then readLiteralBlock rest else none
    else if c = '\n' || isPlain c then push c (readLiteralBlock rest)
    else none

/-- Where in a block in double quotes a character stands. -/
inductive BlockMode where
  | plain
  /-- After a removed line end: blanks and line ends are removed too. -/
  | gap
  | escape
  /-- Between a backslash and the line end that it removes. -/
  | lineEnd
  | code (left value : Nat)
  deriving DecidableEq, Repr

/-- Reads up to the closing quotes of a block in double quotes. -/
def readBlock : BlockMode → Reader (List Char)
  | _, [] => none
  | .code left value, c :: rest =>
    match Numeral.hexDigit? c, left with
    | none, _ => none
    | some d, left + 1 => readBlock (.code left (16 * value + d)) rest
    | some d, 0 =>
      match ofCode? (16 * value + d) with
      | some e => push e (readBlock .plain rest)
      | none => none
  | .lineEnd, c :: rest =>
    if isBlank c then readBlock .lineEnd rest
    else if c = '\n' then readBlock .gap rest
    else if c = '\r' && atLineFeed rest then readBlock .lineEnd rest
    else none
  | .escape, c :: rest =>
    if isBlank c then readBlock .lineEnd rest
    else if c = '\n' then readBlock .gap rest
    else if c = '\r' && atLineFeed rest then readBlock .lineEnd rest
    else
      match codeLength? c with
      | some length => readBlock (.code (length - 1) 0) rest
      | none =>
        match escape? c with
        | some d => push d (readBlock .plain rest)
        | none => none
  | mode, c :: rest =>
    if mode = .gap && (isBlank c || c = '\n') then readBlock .gap rest
    else if c = '\r' then if atLineFeed rest then readBlock mode rest else none
    else if c = '\\' then readBlock .escape rest
    else if c = '"' then
      match closeBlock? '"' rest with
      | some found => some found
      | none => push c (readBlock .plain rest)
    else if c = '\n' || isPlain c then push c (readBlock .plain rest)
    else none

/-- Reads a text on one line, whose opening quote is given. -/
def readLineText (quote : Char) : Reader (List Char) :=
  if quote = '"' then readBasic .plain else readLiteral

/-- Reads a text, whose opening quote is given. -/
def readText (quote : Char) (cs : List Char) : Option (List Char × List Char) :=
  match cs with
  | a :: b :: rest =>
    if a = quote && b = quote then
      if quote = '"' then readBlock .plain (dropLineEnd rest) else readLiteralBlock (dropLineEnd rest)
    else readLineText quote cs
  | _ => readLineText quote cs

end LineAtlas.Toml
