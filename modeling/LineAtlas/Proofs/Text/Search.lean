import LineAtlas.Text.Blank
import LineAtlas.Text.Lines
import Mathlib.Data.List.TakeDrop

/-!
# Looking into texts

What the searches of texts decide, in terms of the prefix and infix relations of lists.
-/

namespace LineAtlas.Text

theorem contains_eq_true_iff {needle cs : List Char} : contains needle cs = true ↔ needle <:+: cs := by
  induction cs with
  | nil => simp [contains]
  | cons c cs ih => rw [contains, Bool.or_eq_true, ih, List.isPrefixOf_iff_prefix, List.infix_cons_iff]

theorem after?_eq_some_iff {front cs rest : List Char} : after? front cs = some rest ↔ cs = front ++ rest := by
  unfold after?
  by_cases h : front <+: cs
  · obtain ⟨tail, rfl⟩ := h
    rw [if_pos (List.isPrefixOf_iff_prefix.2 (List.prefix_append front tail)), List.drop_left, Option.some.injEq,
      List.append_cancel_left_eq]
  · rw [if_neg (mt List.isPrefixOf_iff_prefix.1 h)]
    simp only [reduceCtorEq, false_iff]
    rintro rfl
    exact h (List.prefix_append front rest)

theorem after?_eq_none_iff {front cs : List Char} : after? front cs = none ↔ ¬ front <+: cs := by
  rw [Option.eq_none_iff_forall_ne_some]
  constructor
  · rintro h ⟨rest, rfl⟩
    exact h rest (after?_eq_some_iff.2 rfl)
  · intro h rest hrest
    exact h ⟨rest, (after?_eq_some_iff.1 hrest).symm⟩

/-- A text is split where its first character that does not belong to the front stands. -/
theorem span_append {p : Char → Bool} {cs rest : List Char} (hcs : ∀ c ∈ cs, p c = true)
    (hrest : ∀ c ∈ rest.head?, p c = false) : (cs ++ rest).span p = (cs, rest) := by
  have hstop : rest.takeWhile p = [] ∧ rest.dropWhile p = rest := by
    cases rest with
    | nil => exact ⟨rfl, rfl⟩
    | cons c rest =>
      have hc : p c = false := hrest c rfl
      simp [hc]
  rw [List.span_eq_takeWhile_dropWhile, List.takeWhile_append_of_pos hcs, List.dropWhile_append_of_pos hcs,
    hstop.1, hstop.2, List.append_nil]

theorem toList_trim (s : String) : (trim s).toList = trimChars s.toList := by
  unfold trim
  rw [String.toList_ofList]

end LineAtlas.Text
