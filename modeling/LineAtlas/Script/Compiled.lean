import LineAtlas.LineMap.Index
import LineAtlas.Settings.Basic
import LineAtlas.Provider

/-!
# Compiled scripts

A compiled script has an address and at most one loaded map, which may have been asked before.  The settings remember
where the map was loaded from and know the root of the source files.  A load has three outcomes: the file cannot be
read and nothing changes; its lines are no map and no map is left; or the map is loaded and its address is stored.
-/

namespace LineAtlas

/-- Puts a question to an index, if there is one. -/
def Index.ask {α : Type} (q : Query α) : Option Index → Told (Option α × Option Index)
  | none => return (none, none)
  | some index => do
    let (answer, index) ← q.run index
    return (some answer, some index)

/-- Where generated code comes from in the source files. -/
structure SourceLocation where
  path : String
  line : Option Nat
  deriving DecidableEq, Repr

structure CompiledScript where
  address : String
  index : Option Index
  deriving Repr

namespace CompiledScript

/-- A script without a map. -/
def ofAddress (address : String) : CompiledScript := ⟨address, none⟩

/-- Puts a question to the loaded map. -/
def ask {α : Type} (q : Query α) : StateT CompiledScript Told (Option α) := fun c => do
  let (answer, index) ← Index.ask q c.index
  return (answer, { c with index := index })

/-- Loads the map that a provider has at an address. -/
def load (provider : Provider) (settings : Settings) (c : CompiledScript) (address : String) :
    Told (Except Fault Unit × CompiledScript × Settings) := do
  match ← provider.loadMap address c.address with
  | .ok map =>
    return (.ok (), { c with index := some (.ofLineMap map) }, (settings.set c.address .lineMap (some address)).2)
  | .error fault =>
    if fault.isFile then return (.error fault, c, settings)
    else return (.error fault, { c with index := none }, settings)

/-- Loads the map whose address is stored; says whether there is one. -/
def restore (provider : Provider) (settings : Settings) (c : CompiledScript) :
    Told (Except Fault Bool × CompiledScript × Settings) := do
  match settings.get? c.address .lineMap with
  | none => return (.ok false, c, settings)
  | some address =>
    match ← c.load provider settings address with
    | (.ok (), loaded) => return (.ok true, loaded)
    | (.error fault, left) =>
      tell (.restoreFailed c.address address fault)
      return (.error fault, left)

/-- Drops the map and its stored address; says whether an address was stored. -/
def clear (settings : Settings) (c : CompiledScript) : Bool × CompiledScript × Settings :=
  let (changed, settings) := settings.set c.address .lineMap none
  (changed, { c with index := none }, settings)

/-- The root of the source files. -/
def root? (settings : Settings) (c : CompiledScript) : Option String := settings.get? c.address .root

/-- Where the code of a record comes from; nowhere if the compiler added it. -/
def locate (settings : Settings) (c : CompiledScript) (record : Record) : Except Fault (Option SourceLocation) :=
  match record.file, c.root? settings with
  | none, _ => .ok none
  | some _, none => .error (.file .noRoot)
  | some file, some root => .ok (some ⟨Files.Path.join root file, record.line⟩)

/-- The record that covers an offset of a generated line. -/
def recordAt (line offset : Nat) : StateT CompiledScript Told (Option Record) :=
  Option.join <$> ask (Index.recordAt line offset)

/-- Where the code at an offset of a generated line comes from. -/
def sourceLocation (settings : Settings) (line offset : Nat) :
    StateT CompiledScript Told (Except Fault (Option SourceLocation)) := do
  match ← recordAt line offset with
  | none => return .ok none
  | some record => return (← get).locate settings record

end CompiledScript

end LineAtlas
