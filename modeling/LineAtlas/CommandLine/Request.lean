import LineAtlas.CommandLine.Reader
import LineAtlas.Environment
import LineAtlas.Event

/-!
# Requests

What a command line asks for.  The frames of its scopes are closed from the innermost to the outermost: each checks
what is pending, the settings file of the environment where the scope names none, whether a command is missing, which
options exclude each other, and last which are missing.
-/

namespace LineAtlas.CommandLine

/-- The line map that a command reads. -/
inductive MapChoice where
  /-- The map whose path is stored for a script. -/
  | stored (script : String)
  /-- The map at a path, for a script or for one that is called like the path. -/
  | file (path : String) (script : Option String)
  deriving DecidableEq, Repr

/-- The script of a line map. -/
def MapChoice.script : MapChoice → String
  | stored script => script
  | file path script => script.getD path

inductive Request where
  | check (map : MapChoice) (json : Bool)
  | lookup (map : MapChoice) (line offset : Nat) (json : Bool)
  | files (map : MapChoice) (line : Nat) (json : Bool)
  | reverse (maps : List String) (file : String) (line : Nat) (json : Bool)
  | name (value : String) (asKey json : Bool)
  | interactive (map : MapChoice)
  | contextSet (script : String) (lineMap root : Option String)
  | contextShow (script : String)
  | contextClear (script : String)
  | completions (shell : String)
  deriving DecidableEq, Repr

/-- A request with what holds for the program as a whole. -/
structure Invocation where
  request : Request
  /-- Up to which level events are shown. -/
  level : Level
  /-- The settings file that was named. -/
  settingsPath : Option String
  deriving DecidableEq, Repr

/-- The options for the program as a whole. -/
structure Common where
  verbose : Nat
  quiet : Bool
  settings : Option String
  deriving DecidableEq, Repr

/-- The options of a scope and of one inside it, which count first. -/
def Common.merge (outer inner : Common) : Common where
  verbose := if inner.verbose = 0 then outer.verbose else inner.verbose
  quiet := outer.quiet || inner.quiet
  settings := inner.settings.or outer.settings

/-- Up to which level events are shown. -/
def Common.level (c : Common) : Level :=
  if c.quiet then .error
  else
    match c.verbose with
    | 0 => .warn
    | 1 => .debug
    | _ => .trace

namespace Frame

/-- The texts that were given for a parameter. -/
def texts (f : Frame) (p : Param) : List String :=
  f.given.filterMap fun
    | (q, .text s) => if q = p then some s else none
    | _ => none

/-- The text that was given for a parameter. -/
def text? (f : Frame) (p : Param) : Option String := (f.texts p).head?

/-- The number that was given for a parameter. -/
def number? (f : Frame) (p : Param) : Option Nat :=
  f.given.findSome? fun
    | (q, .number n) => if q = p then some n else none
    | _ => none

/-- The options for the program as a whole that a scope has. -/
def common (f : Frame) : Common := ⟨f.given.countP (·.1 = .verbose), f.has .quiet, f.text? .settings⟩

/-- Something that has to be given. -/
def required {α : Type} (v : Option α) : Except UsageError α := v.elim (.error .missingArgument) .ok

/-- The line map that a scope chooses. -/
def mapChoice (f : Frame) : Except UsageError MapChoice :=
  match f.text? .map, f.text? .script with
  | some path, script => .ok (.file path script)
  | none, some script => .ok (.stored script)
  | none, none => .error .missingArgument

/-- The request of the innermost scope. -/
def request (f : Frame) : Except UsageError Request := do
  let json := f.has .json
  match f.scope with
  | .program | .context => throw .noCommand
  | .check => return .check (← f.mapChoice) json
  | .lookup => return .lookup (← f.mapChoice) (← required (f.number? .line)) ((f.number? .offset).getD 0) json
  | .files => return .files (← f.mapChoice) (← required (f.number? .line)) json
  | .reverse =>
    if (f.texts .maps).isEmpty then throw .missingArgument
    return .reverse (f.texts .maps) (← required (f.text? .file)) (← required (f.number? .line)) json
  | .name => return .name (← required (f.text? .value)) (f.has .property) json
  | .interactive => return .interactive (← f.mapChoice)
  | .contextSet => return .contextSet (← required (f.text? .url)) (f.text? .lineMap) (f.text? .root)
  | .contextShow => return .contextShow (← required (f.text? .url))
  | .contextClear => return .contextClear (← required (f.text? .url))
  | .completions => return .completions (← required (f.text? .shell))

/-- Closes a frame: checks what is pending and the settings file of the environment. -/
def close (env : Environment) (f : Frame) : Except UsageError Frame := do
  let f ← f.settle
  if !f.has .settings && env.settingsPath = some "" then throw .invalidValue
  return f

/-- Checks that no options were given that exclude each other. -/
def checkConflicts (f : Frame) : Except UsageError Unit :=
  if f.has .quiet && f.has .verbose then .error .conflict else .ok ()

/-- Closes the innermost frame. -/
def closeInnermost (env : Environment) (f : Frame) : Except UsageError (Request × Common) := do
  let f ← f.close env
  if !f.scope.commands.isEmpty then
    throw (if f.given.isEmpty && env.settingsPath.isNone then .nothingGiven else .noCommand)
  f.checkConflicts
  return (← f.request, f.common)

/-- Closes the frame of a scope around others. -/
def closeOuter (env : Environment) (inner : Common) (f : Frame) : Except UsageError Common := do
  let f ← f.close env
  f.checkConflicts
  return f.common.merge inner

end Frame

/-- The invocation that a state stands for after the last word. -/
def State.close (env : Environment) : State → Except UsageError Invocation
  | .explaining _ => .error .helpWanted
  | .reading outer f => do
    let (request, inner) ← f.closeInnermost env
    let common ← outer.foldlM (Frame.closeOuter env) inner
    return ⟨request, common.level, common.settings.or env.settingsPath⟩

/-- Reads a command line. -/
def read (env : Environment) (words : List String) : Except UsageError Invocation := do
  (← State.readAll words).close env

end LineAtlas.CommandLine
