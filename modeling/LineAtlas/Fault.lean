import LineAtlas.Files.Error
import LineAtlas.LineMap.Flaw
import LineAtlas.Record

/-!
# Faults

Everything that can stop an operation, by cause.  The text of a fault says first of what kind it is.
-/

namespace LineAtlas

/-- What went wrong with a file. -/
inductive FileFault where
  | unreadableMap (path : String) (error : Files.Error)
  | unknownText (url : String)
  | noRoot
  | unreadableSettings (path : String) (error : Files.Error)
  | noSettingsDirectory (path : String) (error : Files.Error)
  | unwritableSettings (path : String) (error : Files.Error)
  deriving DecidableEq, Repr

def FileFault.message : FileFault → String
  | unreadableMap path error => "Failed to read map file " ++ Text.quoted path ++ ": " ++ error.message
  | unknownText url => "No content registered for " ++ url
  | noRoot => "Cannot open source file as the root path is unknown"
  | unreadableSettings path error => "Failed to read settings file " ++ Text.quoted path ++ ": " ++ error.message
  | noSettingsDirectory path error =>
    "Failed to create settings directory " ++ Text.quoted path ++ ": " ++ error.message
  | unwritableSettings path error => "Failed to write settings file " ++ Text.quoted path ++ ": " ++ error.message

/-- What is wrong with a question. -/
inductive QueryFault where
  | lineZero
  | noStoredMap (script : String)
  | noLoadedMap (path : String)
  deriving DecidableEq, Repr

def QueryFault.message : QueryFault → String
  | lineZero => "line numbers start at 1"
  | noStoredMap script =>
    "no line map stored for " ++ script ++ "; pass --map or run `mapping-debug context set --source-map`"
  | noLoadedMap path => "no line map loaded from " ++ path

inductive Fault where
  | format (flaw : LineMap.Flaw)
  | incompatible (line : String)
  | undecodable (id : Nat) (reason : Record.Fault)
  | file (cause : FileFault)
  /-- The settings file with this path is not TOML or does not hold settings. -/
  | settings (path : String)
  | query (cause : QueryFault)
  deriving Repr

def Fault.message : Fault → String
  | format flaw => "Invalid line map: " ++ flaw.message
  | incompatible line => "The line map is of an incompatible version: " ++ line
  | undecodable id reason => "Failed to decode mapping " ++ Numeral.ofNat id ++ ": " ++ reason.message
  | file cause => "File operation failed: " ++ cause.message
  | settings path => "Settings error: Failed to parse TOML settings from " ++ Text.quoted path
  | query cause => "Invalid query: " ++ cause.message

/-- Whether a fault lies with a file and not with its content. -/
def Fault.isFile : Fault → Bool
  | file _ => true
  | _ => false

/-- Whether a fault says that a map is of another version. -/
def Fault.isIncompatible : Fault → Bool
  | incompatible _ => true
  | _ => false

end LineAtlas
