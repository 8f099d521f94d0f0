import Mathlib
import LineAtlas.Proofs.Index.Question

/-!
# Definitions that cannot be decoded

An index counts and reports a definition that cannot be decoded once, when it is first resolved.  So the count after an
interview is the number of such definitions among the decoded ones, whatever the order of the questions
(`failures_settled`), and the reports of an interview are one for each of them (`exists_refusals`), each made by the
question that first touched the definition.
-/

namespace LineAtlas

open Index (settled)

/-- The reports about definitions that cannot be decoded. -/
def refusalsIn (events : List Event) : List Event :=
  events.filter fun e => e.level = .warn ∧ e.message = "Error parsing mapping"

namespace LineMap

/-! ### Reports -/

/-- Of the definitions in `ids` those that cannot be decoded and are not in `s` are reported, each of them once. -/
theorem exists_refusals (m : LineMap) (s : Finset Nat) (ids : List Nat) :
    ∃ fresh : List Nat, fresh.Nodup ∧ (∀ id, id ∈ fresh ↔ id ∈ ids ∧ id ∉ s ∧ m.Refused id) ∧
      m.refusals s ids = fresh.filterMap m.refusal? := by
  induction ids generalizing s with
  | nil => exact ⟨[], List.nodup_nil, by simp, rfl⟩
  | cons id ids ih =>
    obtain ⟨fresh, hnodup, hmem, heq⟩ := ih (insert id s)
    simp only [Finset.mem_insert, not_or] at hmem
    -- The first definition is reported if it is new and cannot be decoded; for the others it is no longer new.
    by_cases hid : id ∉ s ∧ m.Refused id
    · refine ⟨id :: fresh, ?_, ?_, ?_⟩
      · rw [List.nodup_cons, hmem]
        exact ⟨fun h => h.2.1.1 rfl, hnodup⟩
      · intro k
        rw [List.mem_cons, List.mem_cons, hmem]
        constructor
        · rintro (rfl | ⟨h, ⟨_, hs⟩, hr⟩)
          · exact ⟨.inl rfl, hid⟩
          · exact ⟨.inr h, hs, hr⟩
        · rintro ⟨h, hs, hr⟩
          by_cases hk : k = id
          · exact .inl hk
          · exact .inr ⟨h.resolve_left hk, ⟨hk, hs⟩, hr⟩
      · obtain ⟨report, hreport⟩ := Option.isSome_iff_exists.1 (isSome_refusal?.2 hid.2)
        rw [refusals, if_neg hid.1, heq, List.filterMap_cons, hreport]
        rfl
    · refine ⟨fresh, hnodup, ?_, ?_⟩
      · intro k
        rw [List.mem_cons, hmem]
        constructor
        · rintro ⟨h, ⟨_, hs⟩, hr⟩
          exact ⟨.inr h, hs, hr⟩
        · rintro ⟨h, hs, hr⟩
          have hk : k ≠ id := by
            rintro rfl
            exact hid ⟨hs, hr⟩
          exact ⟨h.resolve_left hk, ⟨hk, hs⟩, hr⟩
      · have hnone : (if id ∈ s then none else m.refusal? id) = none := by
          by_cases hs : id ∈ s
          · rw [if_pos hs]
          · rw [if_neg hs]
            exact refusal?_eq_none fun hr => hid ⟨hs, hr⟩
        rw [refusals, hnone, heq]
        rfl

theorem refusals_append (m : LineMap) (s : Finset Nat) (ids ids' : List Nat) :
    m.refusals s (ids ++ ids') = m.refusals s ids ++ m.refusals (s ∪ ids.toFinset) ids' := by
  induction ids generalizing s with
  | nil => simp [refusals]
  | cons id ids ih =>
    have hs : insert id s ∪ ids.toFinset = s ∪ (id :: ids).toFinset := by
      rw [List.toFinset_cons, Finset.insert_union, Finset.union_insert]
    rw [List.cons_append, refusals, refusals, ih, hs, List.append_assoc]

private theorem refusal?_report {m : LineMap} {id : Nat} {report : Event} (h : m.refusal? id = some report) :
    report.level = .warn ∧ report.message = "Error parsing mapping" := by
  unfold refusal? at h
  obtain ⟨text, _, h⟩ := Option.bind_eq_some_iff.1 h
  split at h
  · cases h
  · cases h
    exact ⟨rfl, rfl⟩

theorem refusalsIn_refusals (m : LineMap) (s : Finset Nat) (ids : List Nat) :
    refusalsIn (m.refusals s ids) = m.refusals s ids := by
  obtain ⟨fresh, _, _, heq⟩ := m.exists_refusals s ids
  unfold refusalsIn
  rw [heq, List.filter_eq_self]
  intro report h
  obtain ⟨id, _, hid⟩ := List.mem_filterMap.1 h
  simpa using refusal?_report hid

theorem refusalsIn_reports (m : LineMap) (q : Question) : refusalsIn (m.reports q) = [] := by
  cases q <;> rfl

theorem refusalsIn_append (events events' : List Event) :
    refusalsIn (events ++ events') = refusalsIn events ++ refusalsIn events' :=
  List.filter_append ..

theorem refusalsIn_course (m : LineMap) (s : Finset Nat) (qs : List Question) :
    refusalsIn (m.course s qs) = m.refusals s (qs.flatMap m.touched) := by
  induction qs generalizing s with
  | nil => rfl
  | cons q qs ih =>
    rw [course, refusalsIn_append, refusalsIn_append, refusalsIn_refusals, refusalsIn_reports, ih, List.flatMap_cons,
      refusals_append, List.append_nil]

end LineMap

/-! ### The count -/

namespace Index

theorem failures_settled (m : LineMap) (s : Finset Nat) :
    (settled m s).failures =
      ((Finset.range m.definitionCount).filter fun id => (settled m s).isDecoded id = true ∧ m.Refused id).card := by
  have h : s.filter m.Refused =
      (Finset.range m.definitionCount).filter fun id => (settled m s).isDecoded id = true ∧ m.Refused id := by
    ext id
    rw [Finset.mem_filter, Finset.mem_filter, Finset.mem_range, isDecoded_settled]
    constructor
    · rintro ⟨hs, hr⟩
      exact ⟨hr.lt, ⟨hs, hr.lt⟩, hr⟩
    · rintro ⟨_, ⟨hs, _⟩, hr⟩
      exact ⟨hs, hr⟩
  exact congrArg Finset.card h

theorem failures_settled_mono (m : LineMap) {s s' : Finset Nat} (h : s ⊆ s') :
    (settled m s).failures ≤ (settled m s').failures :=
  Finset.card_le_card (Finset.filter_subset_filter _ h)

theorem failures_settled_le (m : LineMap) (s : Finset Nat) : (settled m s).failures ≤ m.definitionCount := by
  rw [failures_settled]
  calc ((Finset.range m.definitionCount).filter _).card
      ≤ (Finset.range m.definitionCount).card := Finset.card_filter_le _ _
    _ = m.definitionCount := Finset.card_range _

end Index

/-- After any interview the count is the number of decoded definitions that cannot be decoded; it never falls, is at
most the number of definitions and does not depend on the order of the questions.  The reports of an interview are one
for each of these definitions, and those of one more question are one for each that this question is the first to
touch. -/
theorem LineMap.refused_once (m : LineMap) (qs : List Question) :
    (m.indexAfter qs).failures =
      ((Finset.range m.definitionCount).filter fun id =>
        (m.indexAfter qs).isDecoded id = true ∧ m.Refused id).card ∧
    (∀ more, (m.indexAfter qs).failures ≤ (m.indexAfter (qs ++ more)).failures) ∧
    (m.indexAfter qs).failures ≤ m.definitionCount ∧
    (∀ qs', qs.Perm qs' → (m.indexAfter qs').failures = (m.indexAfter qs).failures) ∧
    (∃ ids : List Nat, ids.Nodup ∧ (∀ id, id ∈ ids ↔ (m.indexAfter qs).isDecoded id = true ∧ m.Refused id) ∧
      refusalsIn ((Index.interview qs).run (.ofLineMap m)).events = ids.filterMap m.refusal?) ∧
    (∀ q : Question, ∃ ids : List Nat, ids.Nodup ∧
      (∀ id, id ∈ ids ↔ (m.indexAfter qs).isDecoded id = false ∧ (m.indexAfter (qs ++ [q])).isDecoded id = true ∧
        m.Refused id) ∧
      refusalsIn (q.asked.run (m.indexAfter qs)).events = ids.filterMap m.refusal?) := by
  refine ⟨?_, fun more => ?_, ?_, fun qs' h => ?_, ?_, fun q => ?_⟩
  · rw [m.indexAfter_eq_settled]
    exact Index.failures_settled m _
  · rw [m.indexAfter_eq_settled, m.indexAfter_eq_settled, touchedBy_append]
    exact Index.failures_settled_mono m Finset.subset_union_left
  · rw [m.indexAfter_eq_settled]
    exact Index.failures_settled_le m _
  · rw [m.indexAfter_eq_settled, m.indexAfter_eq_settled, m.touchedBy_perm h]
  · obtain ⟨ids, hnodup, hmem, heq⟩ := m.exists_refusals ∅ (qs.flatMap m.touched)
    refine ⟨ids, hnodup, fun id => ?_, ?_⟩
    · rw [hmem, isDecoded_indexAfter, List.mem_flatMap]
      constructor
      · rintro ⟨ht, _, hr⟩
        exact ⟨⟨ht, hr.lt⟩, hr⟩
      · rintro ⟨⟨ht, _⟩, hr⟩
        exact ⟨ht, Finset.notMem_empty id, hr⟩
    · rw [Index.ofLineMap_eq_settled, Index.run_interview, refusalsIn_course, heq]
  · obtain ⟨ids, hnodup, hmem, heq⟩ := m.exists_refusals (m.touchedBy qs) (m.touched q)
    refine ⟨ids, hnodup, fun id => ?_, ?_⟩
    · rw [hmem, mem_touchedBy, Bool.eq_false_iff, ne_eq, isDecoded_indexAfter, isDecoded_indexAfter]
      constructor
      · rintro ⟨ht, hs, hr⟩
        exact ⟨fun h => hs h.1, ⟨⟨q, by simp, ht⟩, hr.lt⟩, hr⟩
      · rintro ⟨hs, ⟨⟨q', hq', ht⟩, hlt⟩, hr⟩
        have hnone : ¬ ∃ q ∈ qs, id ∈ m.touched q := fun h => hs ⟨h, hlt⟩
        obtain hq' | rfl := List.mem_append.1 hq' |>.imp_right List.mem_singleton.1
        · exact absurd ⟨q', hq', ht⟩ hnone
        · exact ⟨ht, hnone, hr⟩
    · rw [m.indexAfter_eq_settled, Index.run_asked, refusalsIn_append, refusalsIn_refusals, refusalsIn_reports,
        List.append_nil, heq]

/-- The broken definition of the sample is counted once in either order of two questions that touch it. -/
theorem LineMap.refused_once_sample :
    [Question.recordAt 3 0, .record 1].Perm [.record 1, .recordAt 3 0] ∧
    (sample.indexAfter [.record 1, .recordAt 3 0]).failures = (sample.indexAfter [.recordAt 3 0, .record 1]).failures ∧
    (sample.indexAfter [.recordAt 3 0, .record 1]).failures = 1 := by
  have hperm : [Question.recordAt 3 0, .record 1].Perm [.record 1, .recordAt 3 0] := .swap ..
  exact ⟨hperm, (sample.refused_once [.recordAt 3 0, .record 1]).2.2.2.1 _ hperm, by cbv⟩

end LineAtlas
