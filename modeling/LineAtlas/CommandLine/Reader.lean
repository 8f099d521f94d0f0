import LineAtlas.CommandLine.Grammar

/-!
# Reading command lines

The words of a command line are read one after the other in the frame of the innermost scope.  An option that takes a
value waits for it until the next word, and a value is checked when the next parameter is met or the frame is closed;
so of two faults the first in this order counts, except that an unknown parameter comes before a value that is still
unchecked.  After two hyphens all words stand by their place.
-/

namespace LineAtlas.CommandLine

/-- What has been read in one scope. -/
structure Frame where
  scope : Scope
  /-- The parameters that were accepted, in order. -/
  given : List (Param × Argument)
  /-- A parameter whose value has not been checked or is still to come. -/
  pending : Option (Param × Option String)
  /-- Whether all words to come stand by their place. -/
  placed : Bool
  deriving Repr

/-- How far a command line has been read. -/
inductive State where
  /-- In a frame, and the frames around it, the nearest first. -/
  | reading (outer : List Frame) (frame : Frame)
  /-- After the command that explains others: the scope to be explained, if more commands can be named. -/
  | explaining (scope : Option Scope)
  deriving Repr

namespace Frame

/-- A scope in which nothing has been read. -/
def start (scope : Scope) : Frame := ⟨scope, [], none, false⟩

/-- Whether a parameter has been accepted. -/
def has (f : Frame) (p : Param) : Bool := f.given.any (·.1 = p)

/-- Whether a parameter waits for its value. -/
def isWaiting (f : Frame) : Bool := f.pending.any (·.2.isNone)

/-- The frame with one more accepted parameter. -/
def push (f : Frame) (p : Param) (a : Argument) : Frame := { f with given := f.given ++ [(p, a)] }

/-- Accepts a parameter with or without a value. -/
def accept (f : Frame) (p : Param) (value : Option String) : Except UsageError Frame :=
  match p.manner, value with
  | .stop error, _ => .error error
  | .count, _ => .ok (f.push p .flag)
  | .flag, _ => if f.has p then .error .conflict else .ok (f.push p .flag)
  | _, none => .error .invalidValue
  | .single, some s => if f.has p then .error .conflict else (p.read s).map (f.push p)
  | .many, some s => (p.read s).map (f.push p)

/-- Checks the parameter that is pending. -/
def settle (f : Frame) : Except UsageError Frame :=
  match f.pending with
  | none => .ok f
  | some (p, value) => { f with pending := none }.accept p value

/-- Accepts a parameter after the one that is pending. -/
def give (f : Frame) (p : Param) (value : Option String) : Except UsageError Frame := do
  (← f.settle).accept p value

/-- Leaves a parameter pending after the one that is. -/
def leave (f : Frame) (p : Param) (value : Option String) : Except UsageError Frame := do
  return { ← f.settle with pending := some (p, value) }

/-- Whether an option takes a value. -/
def takesValue (p : Param) : Bool := p.manner = .single || p.manner = .many

/-- Reads an option by its long name, with the value attached to it, if there is one. -/
def readLong (f : Frame) (name : String) (attached : Option String) : Except UsageError Frame :=
  match f.scope.long? name with
  | none => .error .unknownArgument
  | some p =>
    match takesValue p, attached with
    | true, none => f.leave p none
    | false, some _ => .error .unneededValue
    | _, value => f.give p value

/-- Reads options by their letters; what follows the letter of one that takes a value is its value. -/
def readLetters (f : Frame) : List Char → Except UsageError Frame
  | [] => .ok f
  | letter :: rest =>
    match f.scope.short? letter with
    | none => .error .unknownArgument
    | some p =>
      if takesValue p then
        match rest with
        | [] => f.leave p none
        | '=' :: value => f.give p (some (String.ofList value))
        | value => f.give p (some (String.ofList value))
      else
        match f.give p none with
        | .error e => .error e
        | .ok f => f.readLetters rest

/-- Reads a word by its place. -/
def readPlaced (f : Frame) (word : String) : Except UsageError Frame :=
  match f.scope.positional? with
  | some p => if f.has p || f.pending.any (·.1 = p) then .error .unknownArgument else f.leave p (some word)
  | none =>
    if f.scope.commands.isEmpty || f.placed && f.scope.hasCommand word then .error .unknownArgument
    else .error .unknownCommand

/-- A word after two hyphens: a name, and the value after an equality sign. -/
def splitLong (cs : List Char) : String × Option String :=
  let (name, rest) := cs.span (· ≠ '=')
  (String.ofList name, match rest with
    | [] => none
    | _ :: value => some (String.ofList value))

/-- Reads a word that is no command. -/
def read (f : Frame) (word : String) : Except UsageError Frame :=
  if f.placed then f.readPlaced word
  else
    match word.toList with
    | ['-', '-'] => .ok { f with placed := true }
    | '-' :: '-' :: long => f.readLong (splitLong long).1 (splitLong long).2
    | '-' :: letter :: rest => f.readLetters (letter :: rest)
    | _ =>
      match f.pending with
      | some (p, none) => .ok { f with pending := some (p, some word) }
      | _ => f.readPlaced word

end Frame

namespace State

/-- The state before the first word. -/
def start : State := .reading [] (.start .program)

/-- Reads one word after the command that explains others. -/
def explain (scope : Option Scope) (word : String) : Except UsageError State :=
  match scope with
  | none => .error .unknownCommand
  | some s =>
    if !s.hasCommand word then .error .unknownCommand
    else if word = Scope.helpCommand then .ok (.explaining none)
    else .ok (.explaining (s.commands.lookup word))

/-- Reads one word. -/
def read (st : State) (word : String) : Except UsageError State :=
  match st with
  | .explaining scope => explain scope word
  | .reading outer f =>
    if !f.placed && !f.isWaiting && f.scope.hasCommand word then
      match f.scope.commands.lookup word with
      | some scope => .ok (.reading (f :: outer) (.start scope))
      | none => .ok (.explaining (some f.scope))
    else (f.read word).map (.reading outer)

/-- Reads the words of a command line. -/
def readAll (words : List String) : Except UsageError State := words.foldlM read start

end State

end LineAtlas.CommandLine
