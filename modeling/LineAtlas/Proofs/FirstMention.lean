import Mathlib.Data.List.Induction
import Mathlib.Data.List.Nodup

/-!
# The order of first mention

`List.eraseDups` keeps each item where it is first mentioned.  One more item is new and stands at the end, or it was
mentioned before and changes nothing.
-/

namespace List

variable {α : Type} [DecidableEq α]

theorem eraseDups_concat (xs : List α) (x : α) :
    (xs ++ [x]).eraseDups = if x ∈ xs.eraseDups then xs.eraseDups else xs.eraseDups ++ [x] := by
  rw [List.eraseDups_append]
  by_cases h : x ∈ xs <;> simp [List.removeAll, h, List.eraseDups_cons]

theorem nodup_eraseDups (xs : List α) : xs.eraseDups.Nodup := by
  induction xs using List.reverseRecOn with
  | nil => exact List.nodup_nil
  | append_singleton xs x ih =>
    rw [eraseDups_concat]
    by_cases h : x ∈ xs.eraseDups
    · rwa [if_pos h]
    · rw [if_neg h]
      exact ih.append (List.nodup_singleton x) (List.disjoint_singleton.2 h)

/-- Items that are left out do not change which of the others are first mentions. -/
theorem eraseDups_filter (p : α → Bool) (xs : List α) : (xs.filter p).eraseDups = xs.eraseDups.filter p := by
  induction xs using List.reverseRecOn with
  | nil => rfl
  | append_singleton xs x ih =>
    rw [List.filter_append, eraseDups_concat]
    by_cases hp : p x
    · rw [List.filter_singleton, hp, cond_true, eraseDups_concat, ih]
      by_cases h : x ∈ xs.eraseDups <;> simp [h, hp]
    · rw [List.filter_singleton, eq_false_of_ne_true hp, cond_false, List.append_nil, ih]
      by_cases h : x ∈ xs.eraseDups <;> simp [h, hp]

end List
