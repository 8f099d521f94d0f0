import LineAtlas.CharMap.Basic
import LineAtlas.Json.Value

/-!
# Line maps

A line map describes one generated script: for each generated line its character map and the source files that went
into it, and the definitions of the mappings that the character maps name, as the text they were written in.  The
number of a definition is its identifier; generated lines are counted from one.
-/

namespace LineAtlas

structure LineMap where
  script : String
  charMaps : List CharMap
  fileLists : List (List String)
  definitions : List String
  deriving DecidableEq, Repr

/-- A line of a generated script. -/
structure Location where
  script : String
  line : Nat
  deriving DecidableEq, Repr

/-- A location as text. -/
def Location.text (l : Location) : String := l.script ++ ":" ++ Numeral.ofNat l.line

/-- A location as JSON. -/
def Location.toJson (l : Location) : Json.Value :=
  .object [("script", .string l.script), ("line", .integer l.line)]

namespace LineMap

/-- What belongs to a generated line in a list with one item for each line. -/
def atLine? {α : Type} (rows : List α) (line : Nat) : Option α :=
  if line = 0 then none else rows[line - 1]?

theorem atLine?_of_pos {α : Type} (rows : List α) {line : Nat} (h : 1 ≤ line) :
    atLine? rows line = rows[line - 1]? := by
  unfold atLine?
  rw [if_neg (by omega)]

theorem isSome_atLine? {α : Type} {rows : List α} {line : Nat} :
    (atLine? rows line).isSome = true ↔ 1 ≤ line ∧ line ≤ rows.length := by
  unfold atLine?
  by_cases h : line = 0
  · simp [h]
  · rw [if_neg h, isSome_getElem?]
    omega

theorem atLine?_drop {α : Type} (rows : List α) (k : Nat) {line : Nat} (h : 1 ≤ line) :
    atLine? (rows.drop k) line = atLine? rows (k + line) := by
  rw [atLine?_of_pos _ h, atLine?_of_pos _ (by omega), List.getElem?_drop, Nat.add_sub_assoc h]

theorem atLine?_take {α : Type} (rows : List α) {k line : Nat} (h : line ≤ k) :
    atLine? (rows.take k) line = atLine? rows line := by
  unfold atLine?
  by_cases hline : line = 0
  · rw [if_pos hline, if_pos hline]
  · rw [if_neg hline, if_neg hline, List.getElem?_take_of_lt (by omega)]

/-- The character map of a generated line. -/
def charMap? (m : LineMap) (line : Nat) : Option CharMap := atLine? m.charMaps line

/-- The source files of a generated line. -/
def files? (m : LineMap) (line : Nat) : Option (List String) := atLine? m.fileLists line

/-- The number of generated lines. -/
def lineCount (m : LineMap) : Nat := m.charMaps.length

/-- The number of definitions. -/
def definitionCount (m : LineMap) : Nat := m.definitions.length

/-- Whether a generated line has a slot. -/
def hasMapping (m : LineMap) (line : Nat) : Bool := (m.charMap? line).any (!·.isEmpty)

/-- The number of generated lines that have a slot. -/
def mappedCount (m : LineMap) : Nat := m.charMaps.countP (!·.isEmpty)

/-- The mapping that holds at an offset of a generated line. -/
def mappingAt? (m : LineMap) (line offset : Nat) : Option Nat :=
  ((m.charMap? line).bind (·.resolve offset)).bind Slot.mapping?

/-- The mappings named on the generated lines into which a file went, with their lines, in order. -/
def mappingsOf (m : LineMap) (file : String) : List (Nat × Nat) :=
  let rows := (m.fileLists.zip m.charMaps).zipIdx 1
  let rows := rows.filter fun (row, line) => row.1.contains file && line ≤ Numeral.lineLimit
  rows.flatMap fun (row, line) => row.2.mappings.map fun id => (line, id)

/-- A summary of a line map over four lines of text. -/
def summary (m : LineMap) : String :=
  "Line map for " ++ m.script ++ "\n  generated lines: " ++ Numeral.ofNat m.lineCount ++ "\n  mapped lines: " ++
    Numeral.ofNat m.mappedCount ++ "\n  mapping definitions: " ++ Numeral.ofNat m.definitionCount

end LineMap

end LineAtlas
