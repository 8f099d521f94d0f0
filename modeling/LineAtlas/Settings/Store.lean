import LineAtlas.Environment
import LineAtlas.Event
import LineAtlas.Files.Tree
import LineAtlas.Settings.Text

/-!
# Settings files

A settings file that is missing holds no settings; one that cannot be read, or holds something else, is a fault, which
`loadOrDefault` only reports.  Saving makes the directories that are missing and writes the file in one piece.
-/

namespace LineAtlas.Settings

open Files (Tree Path.join Path.parent?)

/-- The settings file of the working directory. -/
def localPath : String := ".mapping-debug.toml"

/-- The settings file of a user, in the directory for settings. -/
def userPath (directory : String) : String := Path.join (Path.join directory "mapping-debug") "settings.toml"

/-- The settings file: the one that is named, else that of the environment, else that of the working directory if it
exists, else that of the user. -/
def defaultPath (env : Environment) (t : Tree) (named : Option String) : String :=
  match named.or env.settingsPath with
  | some path => path
  | none => if t.exists? localPath then localPath else (env.configDirectory?.map userPath).getD localPath

/-- The settings in a file. -/
def load (t : Tree) (path : String) : Except Fault Settings :=
  if t.exists? path then
    match t.readText path with
    | .error e => .error (.file (.unreadableSettings path e))
    | .ok content =>
      match read content with
      | none => .error (.settings path)
      | some s => .ok s
  else .ok .empty

/-- The settings in a file, or none where they cannot be loaded. -/
def loadOrDefault (t : Tree) (path : String) : Told Settings := do
  match load t path with
  | .ok s => return s
  | .error fault =>
    tell (.settingsIgnored fault)
    return .empty

/-- Makes the directory of a file and those around it, as far as they are missing. -/
def makeParent (t : Tree) (path : String) : Except Fault Unit × Tree :=
  match (Path.parent? path).filter (· ≠ "") with
  | none => (.ok (), t)
  | some parent =>
    match t.makeDirectories parent with
    | (.ok (), made) => (.ok (), made)
    | (.error e, made) => (.error (.file (.noSettingsDirectory parent e)), made)

/-- Writes settings to a file. -/
def save (s : Settings) (t : Tree) (path : String) : Told (Except Fault Unit × Tree) := do
  match makeParent t path with
  | (.error fault, made) => return (.error fault, made)
  | (.ok (), made) =>
    match made.writeText path s.text with
    | .error e => return (.error (.file (.unwritableSettings path e)), made)
    | .ok written =>
      tell (.settingsSaved path)
      return (.ok (), written)

end LineAtlas.Settings
