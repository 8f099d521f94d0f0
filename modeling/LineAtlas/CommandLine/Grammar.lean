import LineAtlas.Text.Numeral

/-!
# The grammar of the command line

A command line is read scope by scope: that of the program, that of a command, and for the commands on settings that of
a command inside it.  Each scope has parameters, which are options with a long or a short name or stand by their place,
and may have commands.  Options for the program as a whole can be given in every scope.
-/

namespace LineAtlas.CommandLine

/-- Why a command line is not run. -/
inductive UsageError where
  | helpWanted
  | versionWanted
  /-- A command is missing and nothing else was given. -/
  | nothingGiven
  | noCommand
  | unknownCommand
  | missingArgument
  | unknownArgument
  /-- An option has no value, an empty path, or a value that is not among those possible. -/
  | invalidValue
  /-- A number is malformed or out of range. -/
  | badNumber
  /-- A value is attached to an option that takes none. -/
  | unneededValue
  /-- An option is given twice, or with one that excludes it. -/
  | conflict
  deriving DecidableEq, Repr

/-- Whether the command line asks for something that is shown in place of a run. -/
def UsageError.isRequest : UsageError → Bool
  | helpWanted | versionWanted => true
  | _ => false

/-- The answer to the question for the version. -/
def versionText : String := "mapping-debug 0.1.0\n"

inductive Scope where
  | program
  | check
  | lookup
  | files
  | reverse
  | name
  | interactive
  | context
  | contextSet
  | contextShow
  | contextClear
  | completions
  deriving DecidableEq, Repr

inductive Param where
  | verbose
  | quiet
  | settings
  | help
  | version
  /-- A line map. -/
  | map
  /-- One of several line maps. -/
  | maps
  | script
  | line
  | offset
  | file
  | json
  | property
  | url
  | lineMap
  | root
  /-- An identifier, by its place. -/
  | value
  /-- The name of a shell, by its place. -/
  | shell
  deriving DecidableEq, Repr

/-- How a parameter is given. -/
inductive Manner where
  /-- At most once, without a value. -/
  | flag
  /-- Any number of times, without a value. -/
  | count
  /-- At most once, with a value. -/
  | single
  /-- Any number of times, each with a value. -/
  | many
  /-- Without a value; it ends reading. -/
  | stop (error : UsageError)
  deriving DecidableEq, Repr

/-- A value that has been accepted. -/
inductive Argument where
  | flag
  | text (s : String)
  | number (n : Nat)
  deriving DecidableEq, Repr

namespace Param

def manner : Param → Manner
  | verbose => .count
  | quiet | json | property => .flag
  | help => .stop .helpWanted
  | version => .stop .versionWanted
  | maps => .many
  | _ => .single

/-- The name after two hyphens. -/
def long? : Param → Option String
  | verbose => some "verbose"
  | quiet => some "quiet"
  | settings => some "settings"
  | help => some "help"
  | version => some "version"
  | map | maps => some "map"
  | script => some "script"
  | line => some "line"
  | offset => some "offset"
  | file => some "file"
  | json => some "json"
  | property => some "property"
  | url => some "url"
  | lineMap => some "source-map"
  | root => some "root-path"
  | value | shell => none

/-- The letter after one hyphen. -/
def short? : Param → Option Char
  | verbose => some 'v'
  | quiet => some 'q'
  | help => some 'h'
  | version => some 'V'
  | map | maps => some 'm'
  | line => some 'l'
  | offset => some 'o'
  | file => some 'f'
  | url => some 'u'
  | _ => none

/-- A path, which is not empty. -/
def readPath (s : String) : Except UsageError Argument := if s = "" then .error .invalidValue else .ok (.text s)

/-- A line number; zero can be said, though no line has it. -/
def readLine (s : String) : Except UsageError Argument :=
  match Numeral.signed? s.toList with
  | none => .error .badNumber
  | some n => if 0 ≤ n && n ≤ Numeral.lineLimit then .ok (.number n.toNat) else .error .badNumber

/-- An offset in a line. -/
def readOffset (s : String) : Except UsageError Argument :=
  match Numeral.unsigned? Numeral.wordLimit s.toList with
  | none => .error .badNumber
  | some n => .ok (.number n)

/-- The shells that are known by name. -/
def shells : List String := ["bash", "elvish", "fish", "powershell", "zsh"]

/-- The argument that a value stands for. -/
def read (p : Param) (s : String) : Except UsageError Argument :=
  match p with
  | settings | map | maps => readPath s
  | line => readLine s
  | offset => readOffset s
  | shell => if shells.contains s then .ok (.text s) else .error .invalidValue
  | _ => .ok (.text s)

end Param

namespace Scope

/-- The commands of a scope, with their scopes. -/
def commands : Scope → List (String × Scope)
  | program => [("check", check), ("lookup", lookup), ("files", files), ("reverse", reverse), ("name", name),
      ("interactive", interactive), ("context", context), ("completions", completions)]
  | context => [("set", contextSet), ("show", contextShow), ("clear", contextClear)]
  | _ => []

/-- The command that explains the others, in each scope with commands. -/
def helpCommand : String := "help"

/-- Whether a word is a command of a scope. -/
def hasCommand (s : Scope) (word : String) : Bool :=
  !s.commands.isEmpty && (word = helpCommand || (s.commands.lookup word).isSome)

/-- The options of a scope apart from those of the program as a whole. -/
def ownOptions : Scope → List Param
  | program => [.version]
  | check => [.map, .script, .json]
  | lookup => [.map, .script, .line, .offset, .json]
  | files => [.map, .script, .line, .json]
  | reverse => [.maps, .file, .line, .json]
  | name => [.property, .json]
  | interactive => [.map, .script]
  | context => []
  | contextSet => [.url, .lineMap, .root]
  | contextShow | contextClear => [.url]
  | completions => []

/-- The options of a scope. -/
def options (s : Scope) : List Param := s.ownOptions ++ [.verbose, .quiet, .settings, .help]

/-- The parameter of a scope that stands by its place. -/
def positional? : Scope → Option Param
  | name => some .value
  | completions => some .shell
  | _ => none

/-- The option of a scope with a long name. -/
def long? (s : Scope) (name : String) : Option Param := s.options.find? (·.long? = some name)

/-- The option of a scope with a letter. -/
def short? (s : Scope) (letter : Char) : Option Param := s.options.find? (·.short? = some letter)

end Scope

end LineAtlas.CommandLine
