import LineAtlas.CommandLine.Request
import LineAtlas.Prompt.Session
import LineAtlas.Script.Registry
import LineAtlas.Settings.Store

/-!
# Answers to requests

Each request that only asks has an answer, the texts to be printed, or the fault for which there is none.  Reading a
map for a request never changes stored settings.  `run` answers a whole command line: only storing settings and the
history of the prompt change the tree.
-/

namespace LineAtlas.CommandLine

open Files (Tree)
open Json (Value)

/-- How answers are printed. -/
structure Style where
  coloured : Bool

/-- A line in the colour of a tone. -/
def Style.say (style : Style) (tone : Tone) (message : String) : Printed := .line (tone.paint style.coloured message)

/-- An answer as JSON. -/
def envelope (result : Value) (errors : List String) : List Printed :=
  let errors := if errors.isEmpty then Value.null else .array (errors.map .string)
  [.line (Value.object [("status", .string "ok"), ("result", result), ("errors", errors)]).pretty]

/-- Lines are counted from one. -/
def checkLine (line : Nat) : Except Fault Unit := if line = 0 then .error (.query .lineZero) else .ok ()

/-! ### Reading maps -/

/-- Loads the chosen map; gives with it the path that it was read from and settings that have this path. -/
def openScript (t : Tree) (settings : Settings) (choice : MapChoice) :
    Told (Except Fault (CompiledScript × String × Settings)) := do
  let c := CompiledScript.ofAddress choice.script
  let opened (c : CompiledScript) (settings : Settings) : CompiledScript × String × Settings :=
    (c, (settings.get? choice.script .lineMap).getD "", settings)
  match choice with
  | .file path _ =>
    let (result, c, settings) ← c.load (.files t none) settings path
    return result.map fun _ => opened c settings
  | .stored script =>
    let (result, c, settings) ← c.restore (.files t none) settings
    return match result with
      | .ok true => .ok (opened c settings)
      | .ok false => .error (.query (.noStoredMap script))
      | .error fault => .error fault

/-- Loads the chosen map and gives its index with the path that it was read from. -/
def openIndex (t : Tree) (settings : Settings) (choice : MapChoice) : Told (Except Fault (Index × String)) := do
  match ← openScript t settings choice with
  | .error fault => return .error fault
  | .ok (c, path, _) =>
    match c.index with
    | none => return .error (.query (.noLoadedMap path))
    | some index => return .ok (index, path)

/-! ### Questions -/

/-- What a map covers. -/
def check (style : Style) (t : Tree) (settings : Settings) (choice : MapChoice) (json : Bool) :
    Told (Except Fault (List Printed)) := do
  match ← openIndex t settings choice with
  | .error fault => return .error fault
  | .ok (index, path) =>
    let map := index.map
    if json then
      return .ok (envelope (.object [("script", .string map.script), ("lines", .integer map.lineCount),
        ("mapped_lines", .integer map.mappedCount), ("mappings", .integer map.definitionCount)]) [])
    else return .ok [style.say .success ("Line map loaded: " ++ path), style.say .info map.summary]

/-- The line about the source file of a mapped source. -/
def sourceLine (style : Style) (mapped : MappedSource) : List Printed :=
  match mapped.path with
  | .ok none => []
  | .ok (some path) => [style.say .info ("Source: " ++ path)]
  | .error fault =>
    [style.say .warning (fault.message ++ "; set one with \x60mapping-debug context set --root-path\x60")]

/-- The line about the source name of a symbol. -/
def symbolLine (style : Style) (name : Option String) : List Printed :=
  (name.map fun name => style.say .info ("Original name: " ++ (Identifier.convert name false).text)).toList

/-- What a position comes from, as lines. -/
def lookupLines (style : Style) (line offset : Nat) (name : Option String) : Option MappedSource → List Printed
  | some mapped => style.say .success mapped.record.text :: (sourceLine style mapped ++ symbolLine style name)
  | none => [style.say .warning ("No mapping for line " ++ Numeral.ofNat line ++ " offset " ++ Numeral.ofNat offset)]

/-- How many definitions a mapper of one script could not decode. -/
def failuresOf : Mapper → Nat
  | .compiled c => (c.index.map Index.failures).getD 0
  | .modules _ => 0

/-- What a position of a generated line comes from. -/
def lookup (style : Style) (t : Tree) (settings : Settings) (choice : MapChoice) (line offset : Nat) (json : Bool) :
    Told (Except Fault (List Printed)) := do
  match checkLine line with
  | .error fault => return .error fault
  | .ok () =>
    match ← openScript t settings choice with
    | .error fault => return .error fault
    | .ok (c, _, settings) =>
      let script := c.address
      let (mapped, registry) ← (Registry.mappedSource settings script line offset).run [.compiled c]
      let (name, registry) ← (Registry.mappedName script line offset).run registry
      let failures := registry.foldl (fun n m => n + failuresOf m) 0
      if json then
        return .ok (envelope (.object [("line", .integer line), ("offset", .integer offset),
          ("mapping", (mapped.map MappedSource.toJson).getD .null), ("name", .ofOption name)]) [])
      else
        let warning := if failures = 0 then []
          else [style.say .warning (Numeral.ofNat failures ++ " mapping(s) could not be decoded")]
        return .ok (lookupLines style line offset name mapped ++ warning)

/-- The source files of a generated line, as lines. -/
def fileLines (style : Style) (map : LineMap) (line : Nat) : List Printed :=
  match map.files? line with
  | some [] => [style.say .warning ("Line " ++ Numeral.ofNat line ++ " has no original files")]
  | some files =>
    style.say .info ("Line " ++ Numeral.ofNat line ++ " was generated from:") :: files.map fun f => .line ("  " ++ f)
  | none =>
    [style.say .warning ("Line " ++ Numeral.ofNat line ++ " is outside the map (" ++ Numeral.ofNat map.lineCount ++
      " lines)")]

/-- The source files of a generated line. -/
def files (style : Style) (t : Tree) (settings : Settings) (choice : MapChoice) (line : Nat) (json : Bool) :
    Told (Except Fault (List Printed)) := do
  match checkLine line with
  | .error fault => return .error fault
  | .ok () =>
    match ← openIndex t settings choice with
    | .error fault => return .error fault
    | .ok (index, _) =>
      if json then
        let files := (index.map.files? line).map fun files => Value.array (files.map .string)
        return .ok (envelope (files.getD .null) [])
      else return .ok (fileLines style index.map line)

/-- Adds the maps at some paths to a table, and names those that could not be read. -/
def addMaps (t : Tree) : List String → ModuleTable → Told (List String × ModuleTable)
  | [], table => return ([], table)
  | path :: rest, table => do
    let (loaded, table) ← table.addFrom (.files t none) path path
    let (missed, table) ← addMaps t rest table
    return (if loaded then missed else path :: missed, table)

/-- The generated lines that come from a source line, as lines. -/
def reverseLines (style : Style) (file : String) (line : Nat) (hits : List Location) : List Printed :=
  let place := file ++ ":" ++ Numeral.ofNat line
  if hits.isEmpty then [style.say .warning ("No generated lines for " ++ place)]
  else style.say .info (place ++ " maps to:") :: hits.map fun hit => .line ("  " ++ hit.text)

/-- The generated lines of some maps that come from a source line. -/
def reverse (style : Style) (t : Tree) (maps : List String) (file : String) (line : Nat) (json : Bool) :
    Told (Except Fault (List Printed)) := do
  match checkLine line with
  | .error fault => return .error fault
  | .ok () =>
    let (missed, table) ← addMaps t maps .empty
    let errors := missed.map ("Could not open line map " ++ ·)
    let (hits, _) ← (Registry.reverse file line).run [.modules table]
    if json then return .ok (envelope (.array (hits.map Location.toJson)) errors)
    else return .ok (errors.map (style.say .warning) ++ reverseLines style file line hits)

/-- The readable form of an identifier. -/
def nameAnswer (value : String) (asKey json : Bool) : List Printed :=
  let name := Identifier.convert value asKey
  if json then envelope name.toJson [] else [.line name.text]

/-- What is stored for a script. -/
def showSettings (style : Style) (settings : Settings) (script : String) : List Printed :=
  match settings.block? script with
  | none => [style.say .warning ("No settings stored for " ++ script)]
  | some block =>
    [style.say .info ("Settings for " ++ block.script),
      .line ("  source map: " ++ block.lineMap.getD "<none>"), .line ("  root path: " ++ block.root.getD "<none>")]

/-! ### Storing settings -/

/-- Stores a value, if one is given, and says whether it differs from the one before. -/
def storeGiven (script : String) (key : Settings.Key) (value : Option String) (settings : Settings) : Bool × Settings :=
  match value with
  | none => (false, settings)
  | some value => settings.set script key (some value)

/-- Writes settings, if they have changed, and says so. -/
def saveIf (changed : Bool) (settings : Settings) (t : Tree) (path : String) (saved unchanged : Printed) :
    Told (Except Fault (List Printed) × Tree) := do
  if changed then
    let (result, t) ← settings.save t path
    return (result.map fun _ => [saved], t)
  else return (.ok [unchanged], t)

/-- Stores the line map or the root of a script. -/
def contextSet (style : Style) (t : Tree) (settings : Settings) (path script : String) (lineMap root : Option String) :
    Told (Except Fault (List Printed) × Tree) :=
  let (mapChanged, settings) := storeGiven script .lineMap lineMap settings
  let (rootChanged, settings) := storeGiven script .root root settings
  saveIf (mapChanged || rootChanged) settings t path
    (style.say .success ("Settings for " ++ script ++ " saved to " ++ path)) (style.say .info "Nothing to change")

/-- Forgets the line map of a script. -/
def contextClear (style : Style) (t : Tree) (settings : Settings) (path script : String) :
    Told (Except Fault (List Printed) × Tree) :=
  let (changed, _, settings) := (CompiledScript.ofAddress script).clear settings
  saveIf changed settings t path (style.say .success ("Cleared line map for " ++ script))
    (style.say .info ("No line map stored for " ++ script))

/-- A session at the prompt over the chosen map. -/
def interactive (env : Environment) (t : Tree) (settings : Settings) (choice : MapChoice) (input : ByteArray) :
    Told (Except Fault (List Printed) × Tree) := do
  match ← openIndex t settings choice with
  | .error fault => return (.error fault, t)
  | .ok (index, path) =>
    let (printed, t) ← Prompt.run env.coloured env.historyPath path index input t
    return (.ok printed, t)

/-! ### Runs -/

/-- What a run has printed, why it failed, and the tree after it. -/
structure Outcome where
  printed : List Printed
  fault : Option Fault
  tree : Tree

/-- The complaint about a map of another version. -/
def upgradeHint (style : Style) : Printed :=
  .complaintLine (Tone.warning.paint style.coloured
    "The line map that was loaded is of an incompatible version. Please upgrade mapping-debug.")

/-- The outcome with an answer or a fault. -/
def Outcome.ofAnswer (style : Style) (tree : Tree) : Except Fault (List Printed) → Outcome
  | .ok printed => ⟨printed, none, tree⟩
  | .error fault => ⟨if fault.isIncompatible then [upgradeHint style] else [], some fault, tree⟩

/-- Answers a request with the settings in a file. -/
def answer (env : Environment) (t : Tree) (input : ByteArray) (path : String) (settings : Settings)
    (request : Request) : Told (Except Fault (List Printed) × Tree) :=
  let style : Style := ⟨env.coloured⟩
  let json (wanted : Bool) : Bool := wanted || settings.isJson
  let unchanged (answer : Told (Except Fault (List Printed))) : Told (Except Fault (List Printed) × Tree) := do
    return (← answer, t)
  match request with
  | .check map wanted => unchanged (check style t settings map (json wanted))
  | .lookup map line offset wanted => unchanged (lookup style t settings map line offset (json wanted))
  | .files map line wanted => unchanged (files style t settings map line (json wanted))
  | .reverse maps file line wanted => unchanged (reverse style t maps file line (json wanted))
  | .name value asKey wanted => return (.ok (nameAnswer value asKey (json wanted)), t)
  | .interactive map => interactive env t settings map input
  | .contextSet script lineMap root => contextSet style t settings path script lineMap root
  | .contextShow script => return (.ok (showSettings style settings script), t)
  | .contextClear script => contextClear style t settings path script
  | .completions _ => return (.ok [], t)

/-- Carries out an invocation. -/
def Invocation.run (env : Environment) (t : Tree) (input : ByteArray) (invocation : Invocation) : Told Outcome := do
  let path := Settings.defaultPath env t invocation.settingsPath
  let settings ← Settings.loadOrDefault t path
  let (answer, tree) ← answer env t input path settings invocation.request
  return .ofAnswer ⟨env.coloured⟩ tree answer

/-- Runs a command line: up to which level its events are shown, and its outcome. -/
def run (env : Environment) (t : Tree) (input : ByteArray) (words : List String) :
    Except UsageError (Level × Told Outcome) := do
  let invocation ← read env words
  return (invocation.level, invocation.run env t input)

end LineAtlas.CommandLine
