import LineAtlas.Identifier
import LineAtlas.LineMap.Index
import LineAtlas.Prompt.Command

/-!
# Answers of the prompt

The questions that a command can put to an index, with their answers as text.  The other commands concern the session
and have no answer here.
-/

namespace LineAtlas.Prompt

/-- A number filled up with blanks on the left to a given width. -/
def padLeft (width : Nat) (n : Nat) : String :=
  let digits := Numeral.chars n
  String.ofList (List.replicate (width - digits.length) ' ' ++ digits)

/-- The name of a record's symbol, on a line of its own. -/
def nameLine (record : Record) : String :=
  match record.symbol? with
  | some name => "\n  original name: " ++ (Identifier.convert name false).text
  | none => ""

/-- The record at a position, with the readable form of its name. -/
def lookup (line offset : Nat) : Query String := do
  match ← Index.recordAt line offset with
  | some record => return record.text ++ nameLine record
  | none => return "No mapping for line " ++ Numeral.ofNat line ++ " offset " ++ Numeral.ofNat offset

/-- What is said of a line that a map does not have. -/
def outside (line : Nat) : String := "Line " ++ Numeral.ofNat line ++ " is outside the map"

/-- The character map of a line. -/
def lineText (map : LineMap) (line : Nat) : String :=
  match map.charMap? line with
  | some slots => padLeft 5 line ++ ": " ++ slots.text
  | none => outside line

/-- The source files of a line. -/
def filesText (map : LineMap) (line : Nat) : String :=
  match map.files? line with
  | some [] => "Line " ++ Numeral.ofNat line ++ " has no original files"
  | some files => "\n".intercalate files
  | none => outside line

/-- The generated lines that come from a source line. -/
def reverse (file : String) (line : Nat) : Query String := do
  match ← Index.reverse file line with
  | [] => return "No generated lines for " ++ file ++ ":" ++ Numeral.ofNat line
  | hits => return "\n".intercalate (hits.map Location.text)

/-- A summary of the map, with the number of definitions that could not be decoded. -/
def infoText (index : Index) : String :=
  if index.failures = 0 then index.map.summary
  else index.map.summary ++ "\n  undecodable mappings: " ++ Numeral.ofNat index.failures

/-- The answer to a command, if it is a question about the index. -/
def answer? : Command → Option (Query String)
  | .lookup line offset => some (lookup line offset)
  | .line line => some do return lineText (← get).map line
  | .files line => some do return filesText (← get).map line
  | .reverse file line => some (reverse file line)
  | .name value asKey => some (pure (Identifier.convert value asKey).text)
  | .info => some do return infoText (← get)
  | .history | .clear | .help | .exit => none

end LineAtlas.Prompt
