import LineAtlas.Text.Numeral

/-!
# Character maps

A generated line carries one slot for each of its first characters.  An explicit slot names a mapping or says that the
characters from there on have none; a slot that is not explicit says the same as the nearest explicit slot before it.
`resolve` finds what holds at an offset; characters after the last slot are covered by the last explicit one.
-/

namespace LineAtlas

inductive Slot where
  /-- Nothing new: what the nearest explicit slot before it says. -/
  | same
  /-- From here on there is no mapping. -/
  | unmapped
  /-- From here on the mapping with this identifier holds. -/
  | mapping (id : Nat)
  deriving DecidableEq, Repr

/-- Whether a slot says something of its own. -/
def Slot.isExplicit : Slot → Bool
  | same => false
  | _ => true

/-- The mapping that a slot names. -/
def Slot.mapping? : Slot → Option Nat
  | mapping id => some id
  | _ => none

/-- A slot in a printed character map. -/
def Slot.text : Slot → String
  | same => "."
  | unmapped => "-"
  | mapping id => Numeral.ofNat id

/-- The slots of one generated line, by character offset. -/
structure CharMap where
  slots : List Slot
  deriving DecidableEq, Repr

namespace CharMap

/-- A line without slots. -/
def empty : CharMap := ⟨[]⟩

def isEmpty (m : CharMap) : Bool := m.slots.isEmpty

/-- The explicit slot that holds at an offset, if there is one at or before it. -/
def resolve (m : CharMap) (offset : Nat) : Option Slot :=
  (m.slots.take (offset + 1)).reverse.find? Slot.isExplicit

/-- The mappings that a line names, in order. -/
def mappings (m : CharMap) : List Nat := m.slots.filterMap Slot.mapping?

/-- The mappings that a line names, with the offsets at which they begin. -/
def explicit (m : CharMap) : List (Nat × Nat) :=
  m.slots.zipIdx.filterMap fun (slot, offset) => slot.mapping?.map fun id => (offset, id)

/-- A character map as text. -/
def text (m : CharMap) : String :=
  if m.isEmpty then "<no mappings>" else " ".intercalate (m.slots.map Slot.text)

end CharMap

end LineAtlas
