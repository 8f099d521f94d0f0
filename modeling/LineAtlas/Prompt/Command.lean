import LineAtlas.Text.Blank
import LineAtlas.Text.Numeral
import LineAtlas.Text.Words

/-!
# Commands of the prompt

A command is a line of words, the first of which says what to do.  `Command.read` gives the command or the reason why
the line is none.
-/

namespace LineAtlas.Prompt

inductive Command where
  | lookup (line offset : Nat)
  | line (line : Nat)
  | files (line : Nat)
  | reverse (file : String) (line : Nat)
  | name (value : String) (asKey : Bool)
  | info
  | history
  | clear
  | help
  | exit
  deriving DecidableEq, Repr

/-- Why a line is not a command. -/
inductive CommandFault where
  | openQuotes
  | empty
  | noLine (command : String)
  | badLine (word : String)
  | lineZero
  | badOffset (word : String)
  | noFile
  | noName
  | unknown (word : String)
  deriving DecidableEq, Repr

def CommandFault.message : CommandFault → String
  | openQuotes => "Unbalanced quotes in command"
  | empty => "Empty command"
  | noLine command => command ++ " requires a line number"
  | badLine word => "Invalid line number: '" ++ word ++ "'"
  | lineZero => "Line numbers start at 1"
  | badOffset word => "Invalid offset: '" ++ word ++ "'"
  | noFile => "reverse requires a file name"
  | noName => "name requires an identifier"
  | unknown word => "Unknown command: '" ++ word ++ "'. Type 'help' for available commands."

namespace Command

/-- The line number that a word of a command gives. -/
def lineOf (command : String) : Option String → Except CommandFault Nat
  | none => .error (.noLine command)
  | some word =>
    match Numeral.unsigned? Numeral.lineLimit word.toList with
    | none => .error (.badLine word)
    | some 0 => .error .lineZero
    | some number => .ok number

/-- The offset that a word gives; zero where there is none. -/
def offsetOf : Option String → Except CommandFault Nat
  | none => .ok 0
  | some word =>
    match Numeral.unsigned? Numeral.wordLimit word.toList with
    | none => .error (.badOffset word)
    | some offset => .ok offset

/-- The command that a word and the words after it stand for. -/
def ofWords (word : String) (rest : List String) : Except CommandFault Command := do
  match word with
  | "lookup" | "l" => return .lookup (← lineOf "lookup" rest[0]?) (← offsetOf rest[1]?)
  | "line" => return .line (← lineOf "line" rest[0]?)
  | "files" | "f" => return .files (← lineOf "files" rest[0]?)
  | "reverse" | "r" =>
    match rest with
    | [] => throw .noFile
    | file :: rest => return .reverse file (← lineOf "reverse" rest[0]?)
  | "name" =>
    match rest with
    | [] => throw .noName
    | value :: rest => return .name value (rest.contains "--property")
  | "info" => return .info
  | "history" => return .history
  | "clear" => return .clear
  | "help" | "h" => return .help
  | "exit" | "quit" | "q" => return .exit
  | _ => throw (.unknown word)

/-- The command that a line stands for. -/
def read (input : String) : Except CommandFault Command :=
  match Words.split (Text.trim input) with
  | none => .error .openQuotes
  | some [] => .error .empty
  | some (word :: rest) => ofWords word rest

end Command

end LineAtlas.Prompt
