import LineAtlas.Script.Compiled

/-!
# Tables of modules

A page can be made of several scripts with a map each.  A table has each script once, in the order in which they were
first added, with the map that was added last, or none if that could not be read.
-/

namespace LineAtlas

structure ModuleTable where
  modules : List (String × Option Index)
  deriving Repr

namespace ModuleTable

def empty : ModuleTable := ⟨[]⟩

/-- The scripts of a table. -/
def scripts (t : ModuleTable) : List String := t.modules.map Prod.fst

/-- The loaded map of a script. -/
def index? (t : ModuleTable) (script : String) : Option Index := (t.modules.lookup script).join

/-- The modules with another entry for a script, at the end where it had none. -/
def replaceIn (script : String) (index : Option Index) : List (String × Option Index) → List (String × Option Index)
  | [] => [(script, index)]
  | m :: rest => if m.1 = script then (script, index) :: rest else m :: replaceIn script index rest

/-- The table with another entry for a script. -/
def insert (t : ModuleTable) (script : String) (index : Option Index) : ModuleTable :=
  ⟨replaceIn script index t.modules⟩

/-- The table after a map has been added, and whether it could be. -/
def record (t : ModuleTable) (script : String) (map : Option LineMap) : Bool × ModuleTable :=
  (map.isSome, t.insert script (map.map Index.ofLineMap))

/-- Adds a script with the lines of its map. -/
def add (script : String) (lines : List String) (t : ModuleTable) : Told (Bool × ModuleTable) := do
  match LineMap.read script lines with
  | .ok map => return t.record script (some map)
  | .error fault =>
    tell (.moduleIgnored script fault)
    return t.record script none

/-- Adds a script whose map a provider has at an address. -/
def addFrom (provider : Provider) (script address : String) (t : ModuleTable) : Told (Bool × ModuleTable) := do
  return t.record script (← provider.loadMap address script).toOption

/-- Puts a question to the map of a script. -/
def ask {α : Type} (script : String) (q : Query α) : StateT ModuleTable Told (Option α) := fun t => do
  match t.index? script with
  | none => return (none, t)
  | some index =>
    let (answer, index) ← q.run index
    return (some answer, t.insert script (some index))

/-- The generated lines that come from a line of a source file, by module. -/
def reverseIn (file : String) (line : Nat) :
    List (String × Option Index) → Told (List Location × List (String × Option Index))
  | [] => return ([], [])
  | (script, index) :: rest => do
    let (hits, index) ← Index.ask (Index.reverse file line) index
    let (more, rest) ← reverseIn file line rest
    return (hits.getD [] ++ more, (script, index) :: rest)

/-- The generated lines of all modules that come from a line of a source file. -/
def reverse (file : String) (line : Nat) : StateT ModuleTable Told (List Location) := fun t => do
  let (hits, modules) ← reverseIn file line t.modules
  tell (.linesCollected file line hits.length)
  return (hits, ⟨modules⟩)

end ModuleTable

end LineAtlas
