import LineAtlas.Script.Mapper

/-!
# Registries

A registry asks its mappers in the order in which they were registered.  The first answer counts, and the mappers after
it are not asked; generated lines are those of all mappers together.
-/

namespace LineAtlas

/-- Mappers in the order of their registration. -/
abbrev Registry := List Mapper

namespace Registry

/-- The first answer of a mapper. -/
def firstMatch {α : Type} (probe : StateT Mapper Told (Option α)) : Registry → Told (Option α × Registry)
  | [] => return (none, [])
  | m :: rest => do
    match ← probe.run m with
    | (some answer, m) => return (some answer, m :: rest)
    | (none, m) =>
      let (answer, rest) ← firstMatch probe rest
      return (answer, m :: rest)

/-- Whether a mapper has a slot on a generated line of a script. -/
def canMap (r : Registry) (script : String) (line : Nat) : Bool := r.any (·.canMap script line)

/-- The record at a position, with the path of its source file. -/
def mappedSource (settings : Settings) (script : String) (line offset : Nat) :
    StateT Registry Told (Option MappedSource) :=
  firstMatch (Mapper.mappedSource settings script line offset)

/-- The source name of the symbol at a position. -/
def mappedName (script : String) (line offset : Nat) : StateT Registry Told (Option String) :=
  firstMatch (Mapper.mappedName script line offset)

/-- The readable form of a name; the name itself where no mapper converts names. -/
def convertName (r : Registry) (value : String) (asKey : Bool) : ReadableName :=
  (r.findSome? (·.convertName value asKey)).getD ⟨value, .plain⟩

/-- The generated lines of all mappers that come from a line of a source file. -/
def reverse (file : String) (line : Nat) : StateT Registry Told (List Location) := fun
  | [] => return ([], [])
  | m :: rest => do
    let (hits, m) ← (Mapper.reverse file line).run m
    let (more, rest) ← reverse file line rest
    return (hits ++ more, m :: rest)

end Registry

end LineAtlas
