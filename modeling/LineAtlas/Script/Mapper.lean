import LineAtlas.Identifier
import LineAtlas.Script.Modules

/-!
# Mappers

A mapper answers questions about generated scripts: one compiled script, whose names are worth converting and whose
source files lie under a stored root, or a table of modules, whose files are named as they are.
-/

namespace LineAtlas

inductive Mapper where
  | compiled (script : CompiledScript)
  | modules (table : ModuleTable)
  deriving Repr

/-- The record at a position with the path of its source file, or the reason why that is not known. -/
structure MappedSource where
  record : Record
  path : Except Fault (Option String)

namespace MappedSource

/-- The path of the source file, if there is one and it is known. -/
def path? (m : MappedSource) : Option String := m.path.toOption.join

/-- Why the path of the source file is not known. -/
def fault? (m : MappedSource) : Option Fault :=
  match m.path with
  | .ok _ => none
  | .error fault => some fault

/-- A mapped source as JSON. -/
def toJson (m : MappedSource) : Json.Value :=
  let error := match m.fault? with
    | none => []
    | some fault => [("path_error", .string fault.message)]
  .object ([("record", m.record.toJson), ("path", .ofOption m.path?)] ++ error)

end MappedSource

namespace Mapper

/-- The loaded map of a script. -/
def index? (m : Mapper) (script : String) : Option Index :=
  match m with
  | .compiled c => if c.address = script then c.index else none
  | .modules t => t.index? script

/-- Puts a question to the map of a script. -/
def ask {α : Type} (script : String) (q : Query α) : StateT Mapper Told (Option α) := fun
  | .compiled c => do
    if c.address = script then
      let (answer, c) ← (CompiledScript.ask q).run c
      return (answer, .compiled c)
    else return (none, .compiled c)
  | .modules t => do
    let (answer, t) ← (ModuleTable.ask script q).run t
    return (answer, .modules t)

/-- Whether a generated line of a script has a slot. -/
def canMap (m : Mapper) (script : String) (line : Nat) : Bool := (m.index? script).any (·.map.hasMapping line)

/-- The record that covers an offset of a generated line. -/
def recordAt (script : String) (line offset : Nat) : StateT Mapper Told (Option Record) :=
  Option.join <$> ask script (Index.recordAt line offset)

/-- The path of the source file of a record that was found at a position.  A compiled script looks the position up again
to say where its code comes from; modules name their source files as they are. -/
def pathAt (settings : Settings) (line offset : Nat) (record : Record) :
    StateT Mapper Told (Except Fault (Option String)) := fun
  | .compiled c => do
    let (location, c) ← (CompiledScript.sourceLocation settings line offset).run c
    return (location.map (·.map SourceLocation.path), .compiled c)
  | .modules t => return (.ok record.file, .modules t)

/-- The record at a position, with the path of its source file. -/
def mappedSource (settings : Settings) (script : String) (line offset : Nat) :
    StateT Mapper Told (Option MappedSource) := do
  match ← recordAt script line offset with
  | none => return none
  | some record => return some ⟨record, ← pathAt settings line offset record⟩

/-- The source name of the symbol at a position. -/
def mappedName (script : String) (line offset : Nat) : StateT Mapper Told (Option String) := do
  if (← get).canMap script line then return (← recordAt script line offset).bind Record.symbol?
  else return none

/-- The readable form of a name, if the mapper converts names. -/
def convertName (m : Mapper) (value : String) (asKey : Bool) : Option ReadableName :=
  match m with
  | .compiled _ => some (Identifier.convert value asKey)
  | .modules _ => none

/-- The generated lines that come from a line of a source file. -/
def reverse (file : String) (line : Nat) : StateT Mapper Told (List Location) := fun
  | .compiled c => do
    let (hits, c) ← (CompiledScript.ask (Index.reverse file line)).run c
    return (hits.getD [], .compiled c)
  | .modules t => do
    let (hits, t) ← (ModuleTable.reverse file line).run t
    return (hits, .modules t)

end Mapper

end LineAtlas
