import LineAtlas.Files.Tree
import LineAtlas.Text.Lines

/-!
# The history of the prompt

The last lines that were entered, without empty lines and without a line equal to the one before it.  A history file
has a mark on its first line and then a line for each entry, in which backslashes and line feeds are escaped; a file
without the mark has its entries as they are.  The file is written only where there is an entry that it does not have.
-/

namespace LineAtlas.Prompt

structure History where
  /-- The entries, oldest first. -/
  entries : List String
  /-- How many entries are not in the file yet. -/
  fresh : Nat
  deriving DecidableEq, Repr

namespace History

def empty : History := ⟨[], 0⟩

/-- The greatest number of entries. -/
def limit : Nat := 100

/-- The history with one more entry, for which the oldest gives way at the limit. -/
def add (h : History) (entry : String) : History :=
  if entry = "" || h.entries.getLast? = some entry then h
  else
    let kept := if limit ≤ h.entries.length then h.entries.drop 1 else h.entries
    ⟨kept ++ [entry], min (h.fresh + 1) (kept.length + 1)⟩

/-! ### Files -/

/-- The first line of a file with escapes. -/
def mark : String := "#V2"

/-- An entry without line feeds. -/
def escape (cs : List Char) : List Char :=
  cs.flatMap fun c => if c = '\\' then ['\\', '\\'] else if c = '\n' then ['\\', 'n'] else [c]

/-- The entry that was escaped, if every backslash begins an escape. -/
def unescape? : List Char → Option (List Char)
  | [] => some []
  | '\\' :: '\\' :: rest => (unescape? rest).map ('\\' :: ·)
  | '\\' :: 'n' :: rest => (unescape? rest).map ('\n' :: ·)
  | '\\' :: _ => none
  | c :: rest => (unescape? rest).map (c :: ·)

/-- The entry on a line of a file with escapes; a line that was not escaped stays as it is. -/
def unescape (line : String) : String := ((unescape? line.toList).map String.ofList).getD line

/-- Adds the entries on some lines of a file.  All of them are then in the file, unless a line is no text: there
reading stops, and the entries before it count as new. -/
def addLines (decode : String → String) : List (Option String) → History → History
  | [], h => { h with fresh := 0 }
  | none :: _, h => h
  | some line :: rest, h => addLines decode rest (if line = "" then h else h.add (decode line))

/-- Reads the lines of a file. -/
def ofLines : List (Option String) → History
  | [] => .empty
  | none :: _ => .empty
  | some first :: rest =>
    if first = mark then addLines unescape rest .empty else addLines id rest (empty.add first)

/-- The history in a file; none where the file cannot be read. -/
def load (t : Files.Tree) (path : String) : History :=
  match t.read path with
  | .ok content => ofLines (Text.byteLines content)
  | .error _ => .empty

/-- A history as the text of a file. -/
def text (h : History) : String :=
  String.join ((mark :: h.entries.map fun entry => String.ofList (escape entry.toList)).map (· ++ "\n"))

/-- Writes a history to a file, where that is possible, if it has new entries. -/
def save (h : History) (t : Files.Tree) (path : String) : Files.Tree :=
  if h.fresh = 0 || h.entries.isEmpty then t else (t.writeText path h.text).toOption.getD t

end History

end LineAtlas.Prompt
