import LineAtlas.Console
import LineAtlas.Palette
import LineAtlas.Prompt.Executor
import LineAtlas.Prompt.History
import LineAtlas.Text.Cluster

/-!
# Sessions at the prompt

A session answers the lines of its input one after the other, blank ones aside, until a line says to leave or the input
ends.  All lines are answered by one index; a line that is not a command is a complaint and changes nothing but the
history.  A backspace removes the character before it.
-/

namespace LineAtlas.Prompt

/-- What a session works on. -/
structure Session where
  index : Index
  history : History

/-- A line after its backspaces have removed what was before them. -/
def eraseBack (cs : List Char) : List Char :=
  let step (kept : List (List Char)) (cluster : List Char) : List (List Char) :=
    if cluster = ['\x08'] then kept.drop 1 else cluster :: kept
  ((Text.clusters cs).foldl step []).reverse.flatten

/-- The lines of an input; none for one that is not text. -/
def inputLines (input : ByteArray) : List (Option String) :=
  (Text.byteLines input).map (·.map fun line => String.ofList (eraseBack line.toList))

/-- What is said at the start. -/
def welcome (coloured : Bool) (path script : String) : List Printed :=
  [(.success, "=== Mapping Debug REPL ==="), (.info, "Line map: " ++ path), (.info, "Script: " ++ script),
    (.info, "Type 'help' for available commands")].map fun (tone, message) => .line (Tone.paint tone coloured message)

def helpText : String :=
  "\n".intercalate [
    "Available Commands:",
    "  lookup <line> [offset]    Original position behind a generated position",
    "  line <line>               Character map of a generated line",
    "  files <line>              Original files of a generated line",
    "  reverse <file> <line>     Generated lines built from an original line",
    "  name <value> [--property] Convert a mangled identifier",
    "  info                      Summary of the loaded map",
    "  history                   Show command history",
    "  clear                     Clear the screen",
    "  help                      Show this help message",
    "  exit                      Exit the REPL"]

/-- The entries of a history, numbered from zero. -/
def historyText (h : History) : String :=
  "\n".intercalate (h.entries.zipIdx.map fun (entry, k) => "  " ++ Numeral.ofNat k ++ ": " ++ entry)

/-- What clears a screen. -/
def clearScreen : String := "\x1b[2J\x1b[1;1H"

/-- A complaint about a line. -/
def complaint (coloured : Bool) (message : String) : Printed :=
  .complaintLine (Tone.error.paint coloured ("Error: " ++ message))

namespace Session

/-- Answers a command that does not leave the session. -/
def answer (command : Command) (s : Session) : Told (List Printed × Session) := do
  match answer? command with
  | some q =>
    let (text, index) ← q.run s.index
    return ([.line text], { s with index })
  | none =>
    match command with
    | .history => return ([.line (historyText s.history)], s)
    | .clear => return ([.answer clearScreen], s)
    | .help => return ([.line helpText], s)
    | _ => return ([], s)

/-- Answers the lines of an input. -/
def answerLines (coloured : Bool) : List (Option String) → Session → Told (List Printed × Session)
  | [], s => return ([.line (Tone.success.paint coloured "Goodbye!")], s)
  | none :: _, s => return ([complaint coloured Files.Error.notText.message], s)
  | some line :: rest, s => do
    if (Text.trimChars line.toList).isEmpty then answerLines coloured rest s
    else
      let s := { s with history := s.history.add line }
      match Command.read line with
      | .ok .exit => return ([], s)
      | .ok command =>
        let (printed, s) ← s.answer command
        let (more, s) ← answerLines coloured rest s
        return (printed ++ more, s)
      | .error fault =>
        let (more, s) ← answerLines coloured rest s
        return (complaint coloured fault.message :: more, s)

end Session

/-- A whole session over an index read from a path: what is printed, and the tree with the history written back. -/
def run (coloured : Bool) (historyPath path : String) (index : Index) (input : ByteArray) (t : Files.Tree) :
    Told (List Printed × Files.Tree) := do
  tell (.promptStarted path)
  let (printed, s) ← Session.answerLines coloured (inputLines input) ⟨index, .load t historyPath⟩
  return (welcome coloured path index.map.script ++ printed, s.history.save t historyPath)

end LineAtlas.Prompt
