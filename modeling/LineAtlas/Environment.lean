import LineAtlas.Files.Path

/-!
# Environments

What a run takes from its surroundings: whether colours are wanted, and where the user keeps settings and history.
-/

namespace LineAtlas

structure Environment where
  coloured : Bool
  /-- The settings file that is to be used where none is named. -/
  settingsPath : Option String
  home : Option String
  /-- The directory of the user's settings, if it is not the usual one below the home directory. -/
  configHome : Option String
  deriving DecidableEq, Repr

namespace Environment

/-- The directory for the user's settings. -/
def configDirectory? (env : Environment) : Option String :=
  match env.configHome.filter Files.Path.isAbsolute with
  | some directory => some directory
  | none => env.home.map (Files.Path.join · ".config")

/-- The file with the history of the prompt. -/
def historyPath (env : Environment) : String := Files.Path.join (env.home.getD "/tmp") ".mapping_debug_history"

end Environment

end LineAtlas
