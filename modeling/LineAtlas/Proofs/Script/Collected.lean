import LineAtlas.Proofs.Index.Collected
import LineAtlas.Proofs.Script.Modules

/-!
# Hits of all modules in one list

The hits of a table can be collected in one list that is handed from map to map, each of which puts its own behind it.
This is what a table answers (`collect_eq`), since each map leaves the list that it is given as it was
(`Index.reverseInto_eq`).  The reports that count hits are then one for each loaded map, in the order of the table
(`searches_reverseIn`), and their sum is the number of all hits.
-/

namespace LineAtlas.ModuleTable

/-- The indexes of the maps that are loaded, in the order of their scripts. -/
def loaded (t : ModuleTable) : List Index := t.modules.filterMap Prod.snd

/-- Hands a list from map to map, each of which puts its hits behind it. -/
def collectIn (file : String) (line : Nat) :
    List (String × Option Index) → List Location → Told (List Location × List (String × Option Index))
  | [], out => return (out, [])
  | (script, none) :: rest, out => do
    let (found, rest) ← collectIn file line rest out
    return (found, (script, none) :: rest)
  | (script, some index) :: rest, out => do
    let (out, index) ← (Index.reverseInto file line out).run index
    let (found, rest) ← collectIn file line rest out
    return (found, (script, some index) :: rest)

/-- The generated lines of all modules that come from a line of a source file, collected in one list. -/
def collect (file : String) (line : Nat) : StateT ModuleTable Told (List Location) := fun t => do
  let (found, modules) ← collectIn file line t.modules []
  tell (.linesCollected file line found.length)
  return (found, ⟨modules⟩)

open Index (searchReport)

variable {file : String} {line : Nat}

theorem collectIn_eq (modules : List (String × Option Index)) (out : List Location) :
    collectIn file line modules out = (fun r => (out ++ r.1, r.2)) <$> reverseIn file line modules := by
  induction modules generalizing out with
  | nil => simp [collectIn, reverseIn]
  | cons m modules ih =>
    obtain ⟨script, index⟩ := m
    cases index with
    | none => simp [collectIn, reverseIn, Index.ask, ih]
    | some index => simp [collectIn, reverseIn, Index.ask, ih, Index.reverseInto_eq]

theorem collect_eq (file : String) (line : Nat) : collect file line = reverse file line := by
  funext t
  simp [collect, reverse, collectIn_eq]

/-! ### Reports -/

/-- Each loaded map reports its hits once, in the order of the table. -/
theorem searches_reverseIn (file : String) (line : Nat) (modules : List (String × Option Index)) :
    searches (reverseIn file line modules).events = (modules.filterMap Prod.snd).map (searchReport file line) := by
  induction modules with
  | nil => rfl
  | cons m modules ih =>
    obtain ⟨script, index⟩ := m
    cases index with
    | none => simpa [reverseIn, Index.ask, Told.events_map] using ih
    | some index =>
      have hevents : (reverseIn file line ((script, some index) :: modules)).events =
          ((Index.reverse file line).run index).events ++ (reverseIn file line modules).events := by
        simp [reverseIn, Index.ask, Told.events_map]
      rw [hevents, searches_append, Index.searches_reverse, ih]
      rfl

/-- The counts of some reports are those of the reports that count. -/
private theorem filterMap_hits?_searches (events : List Event) :
    (searches events).filterMap Event.hits? = events.filterMap Event.hits? := by
  unfold searches
  rw [List.filterMap_filter]
  congr 1
  funext e
  cases e.hits? <;> simp

theorem sum_hits?_reverseIn (file : String) (line : Nat) (modules : List (String × Option Index)) :
    ((reverseIn file line modules).events.filterMap Event.hits?).sum = (reverseIn file line modules).value.1.length := by
  rw [← filterMap_hits?_searches, searches_reverseIn, value_reverseIn]
  induction modules with
  | nil => rfl
  | cons m modules ih =>
    obtain ⟨script, index⟩ := m
    cases index with
    | none => simpa using ih
    | some index => simpa [searchReport, Event.hits?] using ih

end LineAtlas.ModuleTable
