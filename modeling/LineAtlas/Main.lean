import LineAtlas.CommandLine.Answers

/-!
# The program

Takes the files that a command line names into a tree, runs the command line on it, prints what it says, and writes
back what it changed.
-/

namespace LineAtlas.Main

open CommandLine (Request MapChoice UsageError)
open Files (Node Place Tree)

/-- The path of a place. -/
def absolute (place : Place) : String := "/" ++ "/".intercalate place

/-- The place of an absolute path. -/
def placeOf (path : String) : Place := (Files.Path.pieces path).filter (· ≠ "")

/-- Takes what stands at a place into a tree. -/
def take (t : Tree) (place : Place) : IO Tree := do
  if (t.node? place).isSome then return t
  match ← (IO.FS.readBinFile (absolute place)).toBaseIO with
  | .ok content => return t.put place (.file content)
  | .error (.inappropriateType ..) => return t.put place .directory
  | .error _ => return t

/-- Takes what stands along a path into a tree. -/
def takePath (t : Tree) (path : String) : IO Tree := do
  let mut t := t
  let mut place := if Files.Path.isAbsolute path then [] else t.workingDirectory
  for piece in Files.Path.pieces path do
    match t.step place piece with
    | .error _ => break
    | .ok next =>
      place := next
      t ← take t place
  return t

/-- Takes what stands along some paths into a tree. -/
def takePaths (t : Tree) (paths : List String) : IO Tree := paths.foldlM takePath t

/-- The paths of the maps that a request reads. -/
def mapPaths (settings : Settings) : Request → List String
  | .check map _ | .lookup map _ _ _ | .files map _ _ | .interactive map =>
    match map with
    | .file path _ => [path]
    | .stored script => (settings.get? script .lineMap).toList
  | .reverse maps _ _ _ => maps
  | _ => []

/-- Writes what differs between two trees, directories first. -/
def writeBack (t before : Tree) : IO Unit := do
  let changes := t.changesSince before
  for (place, node) in changes do
    if node = .directory then IO.FS.createDirAll (absolute place)
  for (place, node) in changes do
    if let .file content := node then IO.FS.writeBinFile (absolute place) content

/-- What is said of a command line that is not run. -/
def usageText : UsageError → String
  | .versionWanted => CommandLine.versionText
  | .helpWanted | .nothingGiven =>
    "Usage: mapping-debug [OPTIONS] <COMMAND>\nCommands: " ++
      ", ".intercalate (CommandLine.Scope.program.commands.map Prod.fst) ++ "\n"
  | .noCommand | .unknownCommand => "error: a command is missing or unknown\n"
  | .missingArgument => "error: a required argument is missing\n"
  | .unknownArgument => "error: an argument is not expected\n"
  | .invalidValue | .badNumber => "error: a value is missing or not valid\n"
  | .unneededValue => "error: a value is attached to an option that takes none\n"
  | .conflict => "error: options cannot be used together\n"

/-- An event as a line. -/
def eventLine (e : Event) : String :=
  let field (item : String × Json.Value) : String := " " ++ item.1 ++ "=" ++ item.2.compact
  e.level.name ++ ": " ++ e.message ++ String.join (e.fields.map field)

/-- Prints the events and texts of an outcome and writes its tree back. -/
def finish (coloured : Bool) (level : Level) (t : Tree) (told : Told CommandLine.Outcome) : IO UInt32 := do
  for e in told.events.filter (Event.isShown level) do
    IO.eprintln (eventLine e)
  for printed in told.value.printed do
    match printed with
    | .answer text => IO.print text
    | .complaint text => IO.eprint text
  writeBack told.value.tree t
  match told.value.fault with
  | none => return 0
  | some fault =>
    IO.eprintln (Tone.error.paint coloured ("Error: " ++ fault.message))
    return 1

/-- The environment of the process. -/
def environment : IO Environment := do
  return { coloured := (← IO.getEnv "NO_COLOR").isNone
           settingsPath := ← IO.getEnv "MAPPING_DEBUG_SETTINGS"
           home := ← IO.getEnv "HOME"
           configHome := ← IO.getEnv "XDG_CONFIG_HOME" }

/-- Runs the command line with the given words. -/
def run (words : List String) : IO UInt32 := do
  let env ← environment
  match CommandLine.read env words with
  | .error e =>
    if e.isRequest then IO.print (usageText e) else IO.eprint (usageText e)
    return if e.isRequest then 0 else 2
  | .ok invocation =>
    let start := Tree.below (placeOf (← IO.currentDir).toString)
    let candidates := [Settings.localPath, env.historyPath] ++ invocation.settingsPath.toList ++
      (env.configDirectory?.map Settings.userPath).toList
    let t ← takePaths start candidates
    let path := Settings.defaultPath env t invocation.settingsPath
    let settings := (Settings.loadOrDefault t path).value
    let t ← takePaths t ((mapPaths settings invocation.request).map (Provider.pathOf none))
    let input ← match invocation.request with
      | .interactive _ => (← IO.getStdin).readBinToEnd
      | _ => pure .empty
    finish env.coloured invocation.level t (invocation.run env t input)

end LineAtlas.Main

/-- The entry of the program. -/
def main (words : List String) : IO UInt32 := LineAtlas.Main.run words
