import LineAtlas.Proofs.Index.Settled
import Mathlib.Data.Finset.Lattice.Basic

/-!
# Questions and interviews

The questions that can be put to an index, and an interview, which puts several of them to the same index one after the
other.  `Table` is an index that decoded all its definitions when it was made and answers without a state.

The key facts: a question leads from `settled m s` to the index in which the definitions that it touches have been
decoded as well, and is answered as the table of `m` answers it (`run_asked`); so is an interview, with all the
definitions that its questions touch (`run_interview`).
-/

namespace LineAtlas

inductive Question where
  | script
  | lineCount
  | definitionCount
  | mappedCount
  | hasMapping (line : Nat)
  | charMap (line : Nat)
  | files (line : Nat)
  | record (id : Nat)
  | recordAt (line offset : Nat)
  | reverse (file : String) (line : Nat)
  deriving DecidableEq, Repr

inductive Answer where
  | text (s : String)
  | count (n : Nat)
  | truth (b : Bool)
  | charMap (m : Option CharMap)
  | files (names : Option (List String))
  | record (r : Option Record)
  | lines (places : List Location)
  deriving Repr

/-- Puts a question to an index. -/
def Question.asked : Question → Query Answer
  | script => return .text (← get).map.script
  | lineCount => return .count (← get).map.lineCount
  | definitionCount => return .count (← get).map.definitionCount
  | mappedCount => return .count (← get).map.mappedCount
  | hasMapping line => return .truth ((← get).map.hasMapping line)
  | charMap line => return .charMap ((← get).map.charMap? line)
  | files line => return .files ((← get).map.files? line)
  | record id => .record <$> Index.resolve id
  | recordAt line offset => .record <$> Index.recordAt line offset
  | reverse file line => .lines <$> Index.reverse file line

/-- Puts questions to an index one after the other. -/
def Index.interview (qs : List Question) : Query (List Answer) := qs.mapM Question.asked

/-- The index of a line map after an interview. -/
def LineMap.indexAfter (m : LineMap) (qs : List Question) : Index := ((Index.interview qs).run (.ofLineMap m)).value.2

/-- A line map with slots before the first explicit one, a mapping without a definition, a line without slots, and a
definition that cannot be decoded. -/
def LineMap.sample : LineMap where
  script := "out.js"
  charMaps := [⟨[.same, .mapping 0, .same, .unmapped, .mapping 7]⟩, .empty, ⟨[.mapping 1, .mapping 0]⟩]
  fileLists := [["a.js"], [], ["b.js", "a.js"]]
  definitions := ["[\"a.js\", 3, 1]", "[broken"]

/-! ### Tables -/

/-- A line map and the records of all its definitions. -/
structure Table where
  map : LineMap
  records : List Record

namespace Table

/-- Decodes every definition of a line map; a stand-in takes the place of a record that cannot be had. -/
def ofLineMap (m : LineMap) : Table where
  map := m
  records := m.definitions.mapIdx fun id text =>
    match Record.decode id text with
    | .ok record => record
    | .error _ => .standIn id

def recordAt (t : Table) (line offset : Nat) : Option Record := (t.map.mappingAt? line offset).bind (t.records[·]?)

def reverse (t : Table) (file : String) (line : Nat) : List Location :=
  (t.map.mappingsOf file).filterMap fun (generated, id) =>
    if t.records[id]?.bind Record.line = some line then some ⟨t.map.script, generated⟩ else none

def answer (t : Table) : Question → Answer
  | .script => .text t.map.script
  | .lineCount => .count t.map.lineCount
  | .definitionCount => .count t.map.definitionCount
  | .mappedCount => .count t.map.mappedCount
  | .hasMapping line => .truth (t.map.hasMapping line)
  | .charMap line => .charMap (t.map.charMap? line)
  | .files line => .files (t.map.files? line)
  | .record id => .record t.records[id]?
  | .recordAt line offset => .record (t.recordAt line offset)
  | .reverse file line => .lines (t.reverse file line)

theorem getElem?_records_ofLineMap (m : LineMap) (id : Nat) : (ofLineMap m).records[id]? = m.record? id := by
  unfold ofLineMap LineMap.record?
  rw [List.getElem?_mapIdx]
  rfl

theorem recordAt_ofLineMap (m : LineMap) (line offset : Nat) :
    (ofLineMap m).recordAt line offset = (m.mappingAt? line offset).bind m.record? := by
  unfold recordAt
  congr 1
  funext id
  exact getElem?_records_ofLineMap m id

theorem reverse_ofLineMap (m : LineMap) (file : String) (line : Nat) :
    (ofLineMap m).reverse file line = m.hits file line := by
  unfold reverse LineMap.hits
  congr 1
  funext ⟨generated, id⟩
  simp only [getElem?_records_ofLineMap]
  rfl

end Table

/-! ### What questions touch -/

namespace LineMap

/-- The definitions that a question resolves, in order. -/
def touched (m : LineMap) : Question → List Nat
  | .record id => [id]
  | .recordAt line offset => (m.mappingAt? line offset).toList
  | .reverse file _ => (m.mappingsOf file).map Prod.snd
  | _ => []

/-- The definitions that the questions of an interview resolve. -/
def touchedBy (m : LineMap) (qs : List Question) : Finset Nat := (qs.flatMap m.touched).toFinset

/-- What is reported of a question itself. -/
def reports (m : LineMap) : Question → List Event
  | .reverse file line => [.reverseSearched m.script file line (m.hits file line).length]
  | _ => []

/-- The reports on the way when the questions of an interview are put and the definitions in `s` have been decoded. -/
def course (m : LineMap) : Finset Nat → List Question → List Event
  | _, [] => []
  | s, q :: qs => (m.refusals s (m.touched q) ++ m.reports q) ++ m.course (s ∪ (m.touched q).toFinset) qs

theorem mem_touchedBy {m : LineMap} {qs : List Question} {id : Nat} :
    id ∈ m.touchedBy qs ↔ ∃ q ∈ qs, id ∈ m.touched q := by
  rw [touchedBy, List.mem_toFinset, List.mem_flatMap]

theorem touchedBy_cons (m : LineMap) (q : Question) (qs : List Question) :
    m.touchedBy (q :: qs) = (m.touched q).toFinset ∪ m.touchedBy qs := by
  simp [touchedBy]

theorem touchedBy_append (m : LineMap) (qs qs' : List Question) :
    m.touchedBy (qs ++ qs') = m.touchedBy qs ∪ m.touchedBy qs' := by
  simp [touchedBy]

theorem touchedBy_perm (m : LineMap) {qs qs' : List Question} (h : qs.Perm qs') :
    m.touchedBy qs = m.touchedBy qs' :=
  List.toFinset_eq_of_perm _ _ (h.flatMap_right _)

end LineMap

/-! ### Runs -/

namespace Index

/-- What a question is answered, what it leaves behind and what it reports. -/
theorem run_asked (m : LineMap) (s : Finset Nat) (q : Question) :
    q.asked.run (settled m s) =
      ⟨((Table.ofLineMap m).answer q, settled m (s ∪ (m.touched q).toFinset)),
        m.refusals s (m.touched q) ++ m.reports q⟩ := by
  cases q with
  | record id =>
    simp only [Question.asked, StateT.run_map, run_resolve, Told.map_mk, Table.answer,
      Table.getElem?_records_ofLineMap, LineMap.touched, LineMap.reports, LineMap.refusals, List.append_nil]
    simp [Finset.union_comm s]
  | recordAt line offset =>
    simp only [Question.asked, StateT.run_map, run_recordAt, Told.map_mk, Table.answer, Table.recordAt_ofLineMap,
      LineMap.touched, LineMap.reports, List.append_nil]
  | reverse file line =>
    simp only [Question.asked, StateT.run_map, run_reverse, Told.map_mk, Table.answer, Table.reverse_ofLineMap,
      LineMap.touched, LineMap.reports]
  | _ => simp [LineMap.touched, LineMap.refusals, LineMap.reports]; rfl

/-- What an interview is answered, what it leaves behind and what it reports. -/
theorem run_interview (m : LineMap) (s : Finset Nat) (qs : List Question) :
    (interview qs).run (settled m s) =
      ⟨(qs.map (Table.ofLineMap m).answer, settled m (s ∪ m.touchedBy qs)), m.course s qs⟩ := by
  induction qs generalizing s with
  | nil => simp [LineMap.touchedBy, LineMap.course]; rfl
  | cons q qs ih =>
    have start : (interview (q :: qs)).run (settled m s) =
        (do return (← q.asked) :: (← interview qs) : Query (List Answer)).run (settled m s) := by
      unfold interview
      rw [List.mapM_cons]
    rw [start, StateT.run_bind, run_asked, Told.mk_bind]
    simp only [StateT.run_bind, ih, Told.mk_bind, StateT.run_pure, Told.value_pure, Told.events_pure,
      List.append_nil, List.map_cons, LineMap.touchedBy_cons, LineMap.course, Finset.union_assoc]

end Index

/-- The definitions that an interview touches are those that have been decoded after it. -/
theorem LineMap.indexAfter_eq_settled (m : LineMap) (qs : List Question) :
    m.indexAfter qs = Index.settled m (m.touchedBy qs) := by
  unfold LineMap.indexAfter
  rw [Index.ofLineMap_eq_settled, Index.run_interview, Finset.empty_union]

theorem LineMap.indexAfter_append (m : LineMap) (qs : List Question) (q : Question) :
    m.indexAfter (qs ++ [q]) = (q.asked.run (m.indexAfter qs)).value.2 := by
  rw [indexAfter_eq_settled, indexAfter_eq_settled, Index.run_asked, touchedBy_append]
  simp [touchedBy]

theorem LineMap.isDecoded_indexAfter {m : LineMap} {qs : List Question} {id : Nat} :
    (m.indexAfter qs).isDecoded id = true ↔ (∃ q ∈ qs, id ∈ m.touched q) ∧ id < m.definitionCount := by
  rw [indexAfter_eq_settled, Index.isDecoded_settled, mem_touchedBy]

end LineAtlas
