import LineAtlas.Proofs.CharMap.Dense
import LineAtlas.Proofs.Index.Footprint

/-!
# Line maps written in other ways

The generated lines of a line map can be written in several ways that mean the same.  Point queries are answered alike
in all of them (`Recoded.mappingAt?_eq`).  Reverse queries find the same generated lines (`Recoded.mem_hits_iff`),
though a line is found once for each slot that names a mapping, and thus more often in the expansion.
-/

namespace LineAtlas.LineMap

/-- Line maps that differ at most in how their generated lines are written. -/
structure Recoded (m m' : LineMap) : Prop where
  script : m'.script = m.script
  charMaps : List.Forall₂ CharMap.Recoded m.charMaps m'.charMaps
  fileLists : m'.fileLists = m.fileLists
  definitions : m'.definitions = m.definitions

namespace Recoded

variable {m m' : LineMap}

theorem charMap?_cases (h : Recoded m m') (line : Nat) :
    (m.charMap? line = none ∧ m'.charMap? line = none) ∨
      ∃ c c', m.charMap? line = some c ∧ m'.charMap? line = some c' ∧ c.Recoded c' := by
  unfold charMap? atLine?
  by_cases hline : line = 0
  · simp [hline]
  · rw [if_neg hline, if_neg hline]
    have hlength := h.charMaps.length_eq
    by_cases hlt : line - 1 < m.charMaps.length
    · right
      exact ⟨_, _, List.getElem?_eq_getElem hlt, List.getElem?_eq_getElem (hlength ▸ hlt), h.charMaps.get hlt _⟩
    · left
      rw [List.getElem?_eq_none_iff, List.getElem?_eq_none_iff]
      omega

theorem mappingAt?_eq (h : Recoded m m') (line offset : Nat) :
    m'.mappingAt? line offset = m.mappingAt? line offset := by
  unfold mappingAt?
  obtain ⟨hc, hc'⟩ | ⟨c, c', hc, hc', hrecoded⟩ := h.charMap?_cases line
  · rw [hc, hc']
  · rw [hc, hc', Option.bind_some, Option.bind_some, hrecoded.resolve_eq]

theorem record?_eq (h : Recoded m m') (id : Nat) : m'.record? id = m.record? id := by
  unfold record?
  rw [h.definitions]

/-- A generated line names the same mappings in both ways of writing it. -/
theorem exists_naming_iff (h : Recoded m m') (generated id : Nat) :
    (∃ slots, m'.charMap? generated = some slots ∧ .mapping id ∈ slots.slots) ↔
      ∃ slots, m.charMap? generated = some slots ∧ .mapping id ∈ slots.slots := by
  obtain ⟨hc, hc'⟩ | ⟨c, c', hc, hc', hrecoded⟩ := h.charMap?_cases generated
  · simp [hc, hc']
  · simp [hc, hc', hrecoded.mapping_mem_slots_iff]

theorem mem_mappingsOf_iff (h : Recoded m m') {file : String} {named : Nat × Nat} :
    named ∈ m'.mappingsOf file ↔ named ∈ m.mappingsOf file := by
  obtain ⟨generated, id⟩ := named
  rw [mem_mappingsOf, mem_mappingsOf, h.exists_naming_iff, files?, h.fileLists, files?]

/-- A reverse query finds the same generated lines. -/
theorem mem_hits_iff (h : Recoded m m') {file : String} {line : Nat} {hit : Location} :
    hit ∈ m'.hits file line ↔ hit ∈ m.hits file line := by
  unfold hits
  simp only [List.mem_filterMap, h.mem_mappingsOf_iff, h.record?_eq, h.script]

end Recoded

/-- What holds at an offset of a line is the last explicit slot up to it, or nothing where there is none.  So it does
not matter whether a line is expanded or how many slots that repeat the one before stand behind it.  Line maps that
differ in nothing else answer every point query alike, and their reverse queries find the same generated lines, after
any interviews. -/
theorem sparse_means_dense :
    (∀ (m : CharMap) offset,
      (∀ slot, m.resolve offset = some slot ↔ ∃ j, IsGreatest (m.explicitUpTo offset) j ∧ m.slots[j]? = some slot) ∧
      (m.resolve offset = none ↔ m.explicitUpTo offset = ∅) ∧
      m.resolve offset ≠ some .same) ∧
    (∀ (m : CharMap) offset, m.dense.resolve offset = m.resolve offset) ∧
    (∀ (m : CharMap) n offset, (m.padded n).resolve offset = m.resolve offset) ∧
    (∀ (m m' : LineMap), m.Recoded m' → ∀ qs qs',
      (∀ line offset, (m'.indexAfter qs').answer (Index.recordAt line offset) =
        (m.indexAfter qs).answer (Index.recordAt line offset)) ∧
      (∀ file line hit, hit ∈ (m'.indexAfter qs').answer (Index.reverse file line) ↔
        hit ∈ (m.indexAfter qs).answer (Index.reverse file line))) := by
  refine ⟨fun m offset => ⟨fun slot => CharMap.resolve_eq_some_iff, CharMap.resolve_eq_none_iff,
    m.resolve_ne_same offset⟩, CharMap.resolve_dense, CharMap.resolve_padded, fun m m' h qs qs' => ?_⟩
  simp only [indexAfter_eq_settled, Index.answer_recordAt, Index.answer_reverse]
  refine ⟨fun line offset => ?_, fun file line hit => h.mem_hits_iff⟩
  rw [h.mappingAt?_eq, funext h.record?_eq]

/-- The sample with its first line expanded, and with two slots on the line that had none. -/
def recodedSample : LineMap :=
  { sample with charMaps :=
      [⟨[.same, .mapping 0, .mapping 0, .unmapped, .mapping 7]⟩, ⟨[.same, .same]⟩, ⟨[.mapping 1, .mapping 0]⟩] }

/-- The expanded first line of the sample names mapping 0 twice and is found for it as before. -/
theorem sparse_means_dense_sample :
    sample.Recoded recodedSample ∧
    (recodedSample.indexAfter [.recordAt 1 0]).answer (Index.recordAt 1 2) =
      some ⟨0, some "a.js", some 3, some 1, [], false⟩ ∧
    ⟨"out.js", 1⟩ ∈ (recodedSample.indexAfter []).answer (Index.reverse "a.js" 3) := by
  obtain ⟨-, -, -, same⟩ := sparse_means_dense
  have hrecoded : sample.Recoded recodedSample :=
    ⟨rfl, .cons (.dense _) (.cons (.padded _ 2) (.cons (.refl _) .nil)), rfl, rfl⟩
  obtain ⟨positions, -⟩ := same _ _ hrecoded [] [.recordAt 1 0]
  obtain ⟨-, lines⟩ := same _ _ hrecoded [] []
  refine ⟨hrecoded, ?_, (lines "a.js" 3 _).2 (by decide +kernel)⟩
  rw [positions]
  rfl

end LineAtlas.LineMap
