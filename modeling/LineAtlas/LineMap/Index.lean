import LineAtlas.Event
import LineAtlas.LineMap.Basic

/-!
# Indexes

An index answers questions about a line map and decodes a definition when a question first needs its record.  The
record then takes the place of the text, and a definition that cannot be decoded is counted and reported that once;
a stand-in is its record from then on.  `LineMap.record?` says what the record of a definition is, decoded or not.
-/

namespace LineAtlas

/-- A definition as text, or its record. -/
inductive Entry where
  | raw (text : String)
  | decoded (record : Record)
  deriving Repr

def Entry.isDecoded : Entry → Bool
  | raw _ => false
  | decoded _ => true

structure Index where
  map : LineMap
  entries : Array Entry
  /-- How many definitions could not be decoded so far. -/
  failures : Nat
  deriving Repr

/-- A question about an index, which may decode definitions and report events. -/
abbrev Query (α : Type) := StateT Index Told α

/-- The record that a definition stands for: its own, or the stand-in where it cannot be decoded. -/
def Record.ofDefinition (id : Nat) (text : String) : Record :=
  match Record.decode id text with
  | .ok record => record
  | .error _ => .standIn id

/-- The record of a definition. -/
def LineMap.record? (m : LineMap) (id : Nat) : Option Record :=
  m.definitions[id]?.map (Record.ofDefinition id)

namespace Index

/-- An index of which nothing has been asked. -/
def ofLineMap (m : LineMap) : Index := ⟨m, (m.definitions.map Entry.raw).toArray, 0⟩

/-- Whether the record of a definition has been decoded. -/
def isDecoded (index : Index) (id : Nat) : Bool := index.entries[id]?.any Entry.isDecoded

/-- The index after the record of a definition has been decoded, or has failed to be. -/
def settle (index : Index) (id : Nat) (record : Record) (failed : Bool) : Index :=
  { index with
    entries := index.entries.setIfInBounds id (.decoded record)
    failures := if failed then index.failures + 1 else index.failures }

/-- Decodes a definition for the first time. -/
def decode (id : Nat) (text : String) : Query Record := do
  match Record.decode id text with
  | .ok record =>
    modify (·.settle id record false)
    return record
  | .error reason =>
    modify (·.settle id (.standIn id) true)
    tell (.definitionRefused (← get).map.script id reason)
    return .standIn id

/-- The record of a definition. -/
def resolve (id : Nat) : Query (Option Record) := do
  match (← get).entries[id]? with
  | none => return none
  | some (.decoded record) => return some record
  | some (.raw text) => some <$> decode id text

/-- The record that covers an offset of a generated line. -/
def recordAt (line offset : Nat) : Query (Option Record) := do
  match (← get).map.mappingAt? line offset with
  | none => return none
  | some id => resolve id

/-- The generated lines that come from a line of a source file, once for each mapping on them that names it. -/
def reverse (file : String) (line : Nat) : Query (List Location) := do
  let map := (← get).map
  let hits ← (map.mappingsOf file).filterMapM fun (generated, id) => do
    let record ← resolve id
    return if record.bind Record.line = some line then some ⟨map.script, generated⟩ else none
  tell (.reverseSearched map.script file line hits.length)
  return hits

end Index

end LineAtlas
