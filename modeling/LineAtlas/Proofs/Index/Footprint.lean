import LineAtlas.Proofs.Index.Agreement

/-!
# What an interview decodes

`LineMap.Needs` says in terms of the line map alone which definitions a question needs.  These are the definitions that
it resolves (`needs_iff_mem_touched`), so an interview decodes the definitions that one of its questions needs, leaves
all others as the text they were written in, and changes nothing else (`decoded_iff_needed`).
-/

namespace LineAtlas.LineMap

/-- The definitions that a question needs: the one that it asks for, the one that holds at the position that it asks
about, or all that are named on the generated lines into which a file went, whatever source line it asks about.  A
generated line has a number of 32 bits. -/
inductive Needs (m : LineMap) (id : Nat) : Question → Prop where
  | record : Needs m id (.record id)
  | recordAt {line offset : Nat} (h : (m.charMap? line).bind (·.resolve offset) = some (.mapping id)) :
      Needs m id (.recordAt line offset)
  | reverse {file : String} {line generated : Nat} {files : List String} {slots : CharMap}
      (hl : generated ≤ Numeral.lineLimit) (hfiles : m.files? generated = some files) (hfile : file ∈ files)
      (hslots : m.charMap? generated = some slots) (hid : .mapping id ∈ slots.slots) :
      Needs m id (.reverse file line)

theorem mem_linesWith {m : LineMap} {file : String} {generated : Nat} :
    generated ∈ m.linesWith file ↔ (1 ≤ generated ∧ generated ≤ m.lineCount) ∧ generated ≤ Numeral.lineLimit ∧
      ∃ files, m.files? generated = some files ∧ file ∈ files := by
  unfold linesWith
  rw [List.mem_filter, List.mem_range'_1, Bool.and_eq_true, decide_eq_true_eq, Option.any_eq_true]
  simp only [List.contains_iff_mem]
  constructor
  · rintro ⟨hb, hfiles, hl⟩
    exact ⟨by omega, hl, hfiles⟩
  · rintro ⟨hb, hl, hfiles⟩
    exact ⟨by omega, hfiles, hl⟩

theorem mem_mappingsOf {m : LineMap} {file : String} {generated id : Nat} :
    (generated, id) ∈ m.mappingsOf file ↔ generated ≤ Numeral.lineLimit ∧
      (∃ files, m.files? generated = some files ∧ file ∈ files) ∧
      ∃ slots, m.charMap? generated = some slots ∧ .mapping id ∈ slots.slots := by
  rw [mappingsOf_eq, List.mem_flatMap]
  constructor
  · rintro ⟨line, hline, hid⟩
    obtain ⟨-, hl, hfiles⟩ := mem_linesWith.1 hline
    cases hslots : m.charMap? line with
    | none => simp [hslots] at hid
    | some slots =>
      rw [hslots, Option.elim_some, List.mem_map] at hid
      obtain ⟨k, hk, hpair⟩ := hid
      cases hpair
      exact ⟨hl, hfiles, slots, hslots, CharMap.mem_mappings.1 hk⟩
  · rintro ⟨hl, hfiles, slots, hslots, hid⟩
    have hbounds : 1 ≤ generated ∧ generated ≤ m.lineCount := isSome_atLine?.1 (Option.isSome_of_eq_some hslots)
    refine ⟨generated, mem_linesWith.2 ⟨hbounds, hl, hfiles⟩, ?_⟩
    rw [hslots, Option.elim_some, List.mem_map]
    exact ⟨id, CharMap.mem_mappings.2 hid, rfl⟩

theorem mappingAt?_eq_some_iff {m : LineMap} {line offset id : Nat} :
    m.mappingAt? line offset = some id ↔ (m.charMap? line).bind (·.resolve offset) = some (.mapping id) := by
  unfold mappingAt?
  rw [Option.bind_eq_some_iff]
  constructor
  · rintro ⟨slot, hslot, hid⟩
    rwa [← Slot.mapping?_eq_some.1 hid]
  · intro h
    exact ⟨_, h, rfl⟩

/-- A question needs the definitions that it resolves. -/
theorem needs_iff_mem_touched {m : LineMap} {q : Question} {id : Nat} : m.Needs id q ↔ id ∈ m.touched q := by
  constructor
  · intro h
    cases h with
    | record => exact List.mem_singleton_self id
    | recordAt h => exact Option.mem_toList.2 (mappingAt?_eq_some_iff.2 h)
    | reverse hl hfiles hfile hslots hid =>
      exact List.mem_map.2 ⟨_, mem_mappingsOf.2 ⟨hl, ⟨_, hfiles, hfile⟩, _, hslots, hid⟩, rfl⟩
  · intro h
    cases q with
    | record k =>
      obtain rfl := List.mem_singleton.1 h
      exact .record
    | recordAt line offset => exact .recordAt (mappingAt?_eq_some_iff.1 (Option.mem_toList.1 h))
    | reverse file line =>
      obtain ⟨⟨generated, k⟩, hmem, rfl⟩ := List.mem_map.1 h
      obtain ⟨hl, ⟨files, hfiles, hfile⟩, slots, hslots, hid⟩ := mem_mappingsOf.1 hmem
      exact .reverse hl hfiles hfile hslots hid
    | _ => cases h

theorem mem_touchedBy_iff_needs {m : LineMap} {qs : List Question} {id : Nat} :
    id ∈ m.touchedBy qs ↔ ∃ q ∈ qs, m.Needs id q := by
  simp only [mem_touchedBy, needs_iff_mem_touched]

theorem getElem?_entries_indexAfter (m : LineMap) (qs : List Question) (id : Nat) :
    (m.indexAfter qs).entries[id]? = m.definitions[id]?.map (Index.entryIn (m.touchedBy qs) id) := by
  rw [indexAfter_eq_settled, Index.getElem?_entries_settled]

/-- After an interview the definitions that one of its questions needs have been decoded, each to the record that it
stands for.  Every other definition is still kept as its text, and the line map is the same. -/
theorem decoded_iff_needed (m : LineMap) (qs : List Question) :
    (∀ id, (m.indexAfter qs).isDecoded id = true ↔ id < m.definitionCount ∧ ∃ q ∈ qs, m.Needs id q) ∧
    (∀ id text, m.definitions[id]? = some text →
      ((∃ q ∈ qs, m.Needs id q) → (m.indexAfter qs).entries[id]? = some (.decoded (Record.ofDefinition id text))) ∧
      ((¬ ∃ q ∈ qs, m.Needs id q) → (m.indexAfter qs).entries[id]? = some (.raw text))) ∧
    (m.indexAfter qs).entries.size = m.definitionCount ∧
    (m.indexAfter qs).map = m := by
  refine ⟨fun id => ?_, fun id text htext => ⟨fun h => ?_, fun h => ?_⟩, ?_, ?_⟩
  · rw [isDecoded_indexAfter, ← mem_touchedBy, mem_touchedBy_iff_needs, and_comm]
  · rw [← mem_touchedBy_iff_needs] at h
    rw [getElem?_entries_indexAfter, htext, Option.map_some, Index.entryIn, if_pos h]
  · rw [← mem_touchedBy_iff_needs] at h
    rw [getElem?_entries_indexAfter, htext, Option.map_some, Index.entryIn, if_neg h]
  · rw [indexAfter_eq_settled]
    simp [Index.settled, definitionCount]
  · rw [indexAfter_eq_settled]
    rfl

/-- A reverse query in the sample decodes what is named on the lines of its file, and a point query at a mapping without
a definition decodes nothing. -/
theorem decoded_iff_needed_sample :
    sample.Needs 1 (.reverse "b.js" 9) ∧ (sample.indexAfter [.reverse "b.js" 9]).isDecoded 1 = true ∧
    (¬ ∃ q ∈ [Question.recordAt 1 5], sample.Needs 0 q) ∧
    (sample.indexAfter [.recordAt 1 5]).entries[0]? = some (.raw "[\"a.js\", 3, 1]") := by
  obtain ⟨decoded, -, -, -⟩ := sample.decoded_iff_needed [.reverse "b.js" 9]
  obtain ⟨-, kept, -, -⟩ := sample.decoded_iff_needed [.recordAt 1 5]
  have hneeds : sample.Needs 1 (.reverse "b.js" 9) := needs_iff_mem_touched.2 (by decide)
  have hspared : ¬ ∃ q ∈ [Question.recordAt 1 5], sample.Needs 0 q := by
    rw [← mem_touchedBy_iff_needs]
    decide
  exact ⟨hneeds, (decoded 1).2 ⟨by decide, _, List.mem_singleton_self _, hneeds⟩, hspared, (kept 0 _ rfl).2 hspared⟩

end LineAtlas.LineMap
