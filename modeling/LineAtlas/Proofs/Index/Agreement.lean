import LineAtlas.Proofs.CharMap.Resolve
import LineAtlas.Proofs.Index.Question

/-!
# Forward and reverse queries

A reverse query goes through the mappings that are named on the generated lines into which a file went.  It can be
answered by point queries alone: `walk` goes over the generated lines in order, and on each line that has the file over
the offsets at which a mapping is named, and keeps those where the point query gives the wanted source line.  Both give
the same list (`hits_eq_walk`), and no position that a point query leads to the wanted source line is missed.
-/

namespace LineAtlas

namespace LineMap

/-- The offsets of a generated line at which a mapping is named, in order. -/
def namedOffsets (m : LineMap) (generated : Nat) : List Nat :=
  match m.charMap? generated with
  | none => []
  | some slots =>
    (List.range slots.slots.length).filter fun offset => (slots.slots[offset]?.bind Slot.mapping?).isSome

/-- The generated lines into which a file went, in order. -/
def linesWith (m : LineMap) (file : String) : List Nat :=
  (List.range' 1 m.lineCount).filter fun generated =>
    (m.files? generated).any (·.contains file) && generated ≤ Numeral.lineLimit

/-- The generated lines that come from a line of a source file, found by point queries to an index. -/
def walk (m : LineMap) (index : Index) (file : String) (line : Nat) : List Location :=
  (m.linesWith file).flatMap fun generated =>
    ((m.namedOffsets generated).filter fun offset =>
      (index.answer (Index.recordAt generated offset)).any fun record => record.line = some line).map
        fun _ => ⟨m.script, generated⟩

end LineMap

/-! ### The order of a reverse query -/

private theorem flatMap_filter_ite {α β : Type} (l : List α) (p : α → Bool) (f : α → List β) :
    (l.filter p).flatMap f = l.flatMap fun x => if p x = true then f x else [] := by
  induction l with
  | nil => rfl
  | cons x l ih => by_cases h : p x = true <;> simp [h, ih]

/-- The items of a list with their numbers from `k` on, by number; numbers past the last item have none. -/
private theorem zipIdx_eq_flatMap_range' {α : Type} (rows : List α) (k n : Nat) (h : rows.length ≤ n) :
    rows.zipIdx k = (List.range' k n).flatMap fun i => (rows[i - k]?.map (·, i)).toList := by
  induction rows generalizing k n with
  | nil => simp
  | cons row rows ih =>
    obtain ⟨n, rfl⟩ : ∃ n', n = n' + 1 := ⟨n - 1, by simp at h; omega⟩
    have rest : ∀ i ∈ List.range' (k + 1) n,
        ((row :: rows)[i - k]?.map (·, i)).toList = (rows[i - (k + 1)]?.map (·, i)).toList := by
      intro i hi
      rw [List.mem_range'_1] at hi
      rw [show i - k = (i - (k + 1)) + 1 by omega, List.getElem?_cons_succ]
    rw [List.zipIdx_cons, List.range'_succ, List.flatMap_cons, Nat.sub_self, List.flatMap_congr rest,
      ← ih (k + 1) n (by simpa using h)]
    rfl

namespace LineMap

/-- The mappings that a reverse query goes through, by generated line. -/
theorem mappingsOf_eq (m : LineMap) (file : String) :
    m.mappingsOf file = (m.linesWith file).flatMap fun generated =>
      (m.charMap? generated).elim [] fun slots => slots.mappings.map fun id => (generated, id) := by
  have hlen : (m.fileLists.zip m.charMaps).length ≤ m.lineCount := by
    rw [List.length_zip]
    exact Nat.min_le_right _ _
  unfold mappingsOf linesWith
  dsimp only
  rw [zipIdx_eq_flatMap_range' _ 1 m.lineCount hlen, List.filter_flatMap, List.flatMap_assoc, flatMap_filter_ite]
  apply List.flatMap_congr
  intro generated hg
  rw [List.mem_range'_1] at hg
  unfold charMap? files?
  rw [atLine?_of_pos _ hg.1, atLine?_of_pos _ hg.1, List.zip_eq_zipWith, List.getElem?_zipWith]
  cases m.fileLists[generated - 1]? with
  | none => simp
  | some files =>
    cases m.charMaps[generated - 1]? with
    | none => simp
    | some slots =>
      by_cases hf : file ∈ files <;> by_cases hl : generated ≤ Numeral.lineLimit <;> simp [hf, hl]

/-! ### The two directions agree -/

theorem mappingAt?_eq_some {m : LineMap} {generated offset id : Nat} {slots : CharMap}
    (hm : m.charMap? generated = some slots) (h : slots.slots[offset]?.bind Slot.mapping? = some id) :
    m.mappingAt? generated offset = some id := by
  obtain ⟨slot, hslot, hid⟩ := Option.bind_eq_some_iff.1 h
  unfold mappingAt?
  rw [hm, Option.bind_some, CharMap.resolve_of_getElem? hslot (Slot.isExplicit_of_mapping? hid)]
  exact hid

private theorem filterMap_eq_filterMap_range {α β : Type} (l : List α) (f : α → Option β) :
    l.filterMap f = (List.range l.length).filterMap fun i => l[i]?.bind f := by
  induction l with
  | nil => rfl
  | cons x l ih =>
    rw [List.length_cons, List.range_succ_eq_map, List.filterMap_cons, List.filterMap_cons, List.filterMap_map, ih]
    rfl

/-- On one generated line, the records of the mappings that are named are those that the point queries find. -/
private theorem hits_on_line {m : LineMap} {generated : Nat} {slots : CharMap} (hm : m.charMap? generated = some slots)
    (line : Nat) :
    (slots.mappings.filterMap fun id =>
        if (m.record? id).bind Record.line = some line then some (⟨m.script, generated⟩ : Location) else none) =
      ((m.namedOffsets generated).filter fun offset =>
        ((m.mappingAt? generated offset).bind m.record?).any fun record => record.line = some line).map
          fun _ => ⟨m.script, generated⟩ := by
  unfold namedOffsets CharMap.mappings
  rw [hm, List.filterMap_filterMap, filterMap_eq_filterMap_range, ← List.filterMap_eq_map', List.filterMap_filter,
    List.filterMap_filter]
  apply List.filterMap_congr
  intro offset _
  rw [← Option.bind_assoc]
  -- Where no mapping is named both sides keep nothing; where one is, it is the one that holds there.
  cases h : slots.slots[offset]?.bind Slot.mapping? with
  | none => rfl
  | some id =>
    rw [mappingAt?_eq_some hm h, Option.bind_some, Option.bind_some]
    cases m.record? id with
    | none => simp
    | some record => simp

end LineMap

open Index (settled)

theorem LineMap.hits_eq_walk (m : LineMap) (s : Finset Nat) (file : String) (line : Nat) :
    m.hits file line = m.walk (settled m s) file line := by
  unfold hits walk
  rw [mappingsOf_eq, List.filterMap_flatMap]
  apply List.flatMap_congr
  intro generated _
  simp only [Index.answer_recordAt]
  cases hm : m.charMap? generated with
  | none => simp [namedOffsets, hm]
  | some slots =>
    rw [← hits_on_line hm, Option.elim_some, List.filterMap_map]
    rfl

/-- A position that a point query leads to a source line is on a line that the reverse query finds. -/
theorem LineMap.mem_hits {m : LineMap} {file : String} {files : List String} {line generated offset : Nat}
    {record : Record} (hl : generated ≤ Numeral.lineLimit) (hfiles : m.files? generated = some files)
    (hfile : file ∈ files) (hr : (m.mappingAt? generated offset).bind m.record? = some record)
    (hline : record.line = some line) : ⟨m.script, generated⟩ ∈ m.hits file line := by
  obtain ⟨id, hid, hrecord⟩ := Option.bind_eq_some_iff.1 hr
  unfold mappingAt? at hid
  obtain ⟨slot, hslot, hmapping⟩ := Option.bind_eq_some_iff.1 hid
  obtain ⟨slots, hslots, hresolve⟩ := Option.bind_eq_some_iff.1 hslot
  have hmem : id ∈ slots.mappings := by
    rw [CharMap.mem_mappings, ← Slot.mapping?_eq_some.1 hmapping]
    exact CharMap.mem_slots_of_resolve hresolve
  have hgen : generated ∈ m.linesWith file := by
    have hb : 1 ≤ generated ∧ generated ≤ m.lineCount := isSome_atLine?.1 (Option.isSome_of_eq_some hslots)
    unfold linesWith
    rw [List.mem_filter, List.mem_range'_1]
    exact ⟨by omega, by simp [hfiles, hfile, hl]⟩
  unfold hits
  rw [List.mem_filterMap]
  refine ⟨(generated, id), ?_, by simp [hrecord, hline]⟩
  rw [mappingsOf_eq, List.mem_flatMap]
  refine ⟨generated, hgen, ?_⟩
  rw [hslots, Option.elim_some, List.mem_map]
  exact ⟨id, hmem, rfl⟩

/-- After any interview a reverse query finds what a walk over all positions by point queries finds, in the same order
and as often, and it misses no position at which a point query gives the wanted source line.  Line numbers have 32
bits. -/
theorem LineMap.reverse_eq_walk (m : LineMap) (qs : List Question) (file : String) (line : Nat) :
    (m.indexAfter qs).answer (Index.reverse file line) = m.walk (m.indexAfter qs) file line ∧
    ∀ generated offset files record, generated ≤ Numeral.lineLimit →
      m.files? generated = some files → file ∈ files →
      (m.indexAfter qs).answer (Index.recordAt generated offset) = some record → record.line = some line →
      ⟨m.script, generated⟩ ∈ (m.indexAfter qs).answer (Index.reverse file line) := by
  rw [m.indexAfter_eq_settled, Index.answer_reverse]
  refine ⟨m.hits_eq_walk _ file line, ?_⟩
  intro generated offset files record hl hfiles hfile hr hline
  rw [Index.answer_recordAt] at hr
  exact mem_hits hl hfiles hfile hr hline

/-- The third line of the sample, past its last slot. -/
theorem LineMap.reverse_eq_walk_sample :
    LineMap.sample.files? 3 = some ["b.js", "a.js"] ∧ "a.js" ∈ ["b.js", "a.js"] ∧
    (LineMap.sample.indexAfter [.recordAt 3 0]).answer (Index.recordAt 3 9) =
      some ⟨0, some "a.js", some 3, some 1, [], false⟩ ∧
    ⟨"out.js", 3⟩ ∈ (LineMap.sample.indexAfter [.recordAt 3 0]).answer (Index.reverse "a.js" 3) := by
  have hfiles : LineMap.sample.files? 3 = some ["b.js", "a.js"] := by decide
  have hrecord : (LineMap.sample.indexAfter [.recordAt 3 0]).answer (Index.recordAt 3 9) =
      some ⟨0, some "a.js", some 3, some 1, [], false⟩ := by rfl
  refine ⟨hfiles, by decide, hrecord, ?_⟩
  exact (LineMap.sample.reverse_eq_walk [.recordAt 3 0] "a.js" 3).2 3 9 _ _ (by decide) hfiles (by decide) hrecord rfl

end LineAtlas
