import LineAtlas.Text.Blank
import LineAtlas.Text.Lines
import Mathlib.Data.List.DropRight

/-!
# Blanks and pieces of written texts

A text without blanks at its ends is trimmed already, and a blank that is added there does not count; pieces that do not
hold the separator between them come apart again.
-/

namespace LineAtlas.Text

variable {cs : List Char}

theorem trimChars_eq_self (hfirst : ∀ c ∈ cs.head?, isBlank c = false) (hlast : ∀ c ∈ cs.getLast?, isBlank c = false) :
    trimChars cs = cs := by
  have hkeep : ∀ {ds : List Char}, (∀ c ∈ ds.head?, isBlank c = false) → ds.dropWhile isBlank = ds := by
    intro ds h
    cases ds with
    | nil => rfl
    | cons d ds => rw [List.dropWhile_cons, h d rfl, if_neg Bool.false_ne_true]
  unfold trimChars
  rw [hkeep hfirst, hkeep, List.reverse_reverse]
  rwa [List.head?_reverse]

theorem trimChars_eq_self_of_forall (h : ∀ c ∈ cs, isBlank c = false) : trimChars cs = cs :=
  trimChars_eq_self (fun c hc => h c (List.mem_of_mem_head? hc)) fun c hc => h c (List.mem_of_mem_getLast? hc)

theorem trimChars_enclosed {first last : Char} (hfirst : isBlank first = false) (hlast : isBlank last = false)
    (cs : List Char) : trimChars (first :: (cs ++ [last])) = first :: (cs ++ [last]) := by
  refine trimChars_eq_self (fun c hc => ?_) fun c hc => ?_
  · rwa [← Option.some.inj hc]
  · rw [← List.cons_append, List.getLast?_concat] at hc
    rwa [← Option.some.inj hc]

theorem trimChars_trimChars (cs : List Char) : trimChars (trimChars cs) = trimChars cs := by
  have hprefix : trimChars cs <+: cs.dropWhile isBlank := List.rdropWhile_prefix isBlank _
  apply trimChars_eq_self
  · intro c hc
    -- what is kept begins with the first character that is not blank
    obtain ⟨tail, htail⟩ := hprefix
    obtain ⟨rest, hrest⟩ := List.head?_eq_some_iff.1 hc
    have hfirst := List.head?_dropWhile_not isBlank cs
    rw [← htail, hrest, List.cons_append, List.head?_cons] at hfirst
    exact hfirst
  · intro c hc
    obtain ⟨hne, rfl⟩ := List.mem_getLast?_eq_getLast hc
    exact Bool.eq_false_iff.2 (List.rdropWhile_last_not isBlank _ hne)

theorem trimChars_concat {c : Char} (hc : isBlank c = true) (cs : List Char) :
    trimChars (cs ++ [c]) = trimChars cs := by
  show ((cs ++ [c]).dropWhile isBlank).rdropWhile isBlank = (cs.dropWhile isBlank).rdropWhile isBlank
  rw [List.dropWhile_append]
  by_cases hblank : (cs.dropWhile isBlank).isEmpty = true
  · rw [if_pos hblank, List.dropWhile_cons_of_pos hc, List.isEmpty_iff.1 hblank]
    rfl
  · rw [if_neg hblank, List.rdropWhile_concat_pos isBlank _ _ hc]

theorem trimChars_append_blanks {blanks : List Char} (h : ∀ c ∈ blanks, isBlank c = true) (cs : List Char) :
    trimChars (cs ++ blanks) = trimChars cs := by
  induction blanks generalizing cs with
  | nil => rw [List.append_nil]
  | cons c blanks ih =>
    obtain ⟨hc, hblanks⟩ := List.forall_mem_cons.1 h
    rw [List.append_cons, ih hblanks, trimChars_concat hc]

theorem trimChars_blanks_append {blanks : List Char} (h : ∀ c ∈ blanks, isBlank c = true) (cs : List Char) :
    trimChars (blanks ++ cs) = trimChars cs := by
  rw [trimChars, List.dropWhile_append_of_pos h, trimChars]

/-- Nothing is left of a text of blanks, and of no other. -/
theorem trimChars_eq_nil_iff : trimChars cs = [] ↔ ∀ c ∈ cs, isBlank c = true := by
  constructor
  · intro h
    have hkept : ∀ c ∈ cs.dropWhile isBlank, isBlank c = true := List.rdropWhile_eq_nil_iff.1 h
    rw [← List.dropWhile_eq_nil_iff]
    cases hdropped : cs.dropWhile isBlank with
    | nil => rfl
    | cons c rest =>
      -- the first character that is kept is no blank
      have hfirst := List.head?_dropWhile_not isBlank cs
      rw [hdropped, List.head?_cons] at hfirst
      rw [hdropped] at hkept
      have hblank := hkept c List.mem_cons_self
      rw [show isBlank c = false from hfirst] at hblank
      cases hblank
  · intro h
    rw [← List.append_nil cs, trimChars_blanks_append h]
    rfl

theorem trim_of_trimChars {s : String} (h : trimChars s.toList = s.toList) : trim s = s := by
  rw [trim, h, String.ofList_toList]

theorem isBlank_of_isDigit {c : Char} (h : c.isDigit = true) : isBlank c = false := by
  have hrange : 48 ≤ c.toNat ∧ c.toNat ≤ 57 := Char.isDigit_iff_toNat.1 h
  simp only [isBlank, Bool.or_eq_false_iff, Bool.and_eq_false_iff, decide_eq_false_iff_not, beq_eq_false_iff_ne]
  omega

section Pieces

variable {α : Type} {sep : α} {pieces : List (List α)}

theorem intercalate_cons (piece : List α) (pieces : List (List α)) :
    [sep].intercalate (piece :: pieces) = piece ++ pieces.flatMap (sep :: ·) := by
  induction pieces generalizing piece with
  | nil => rw [List.intercalate_singleton, List.flatMap_nil, List.append_nil]
  | cons next pieces ih => rw [List.intercalate_cons_cons, ih, List.flatMap_cons, List.append_assoc]; rfl

theorem mem_intercalate {c : α} (h : c ∈ [sep].intercalate pieces) : c = sep ∨ ∃ piece ∈ pieces, c ∈ piece := by
  cases pieces with
  | nil => cases h
  | cons piece pieces =>
    rw [intercalate_cons, List.mem_append, List.mem_flatMap] at h
    obtain h | ⟨other, hother, h⟩ := h
    · exact .inr ⟨piece, List.mem_cons_self, h⟩
    · exact (List.mem_cons.1 h).imp_right fun hc => ⟨other, List.mem_cons_of_mem _ hother, hc⟩

theorem mem_intercalate_of_mem {piece : List α} {c : α} (hpiece : piece ∈ pieces) (hc : c ∈ piece) :
    c ∈ [sep].intercalate pieces := by
  cases pieces with
  | nil => cases hpiece
  | cons first pieces =>
    rw [intercalate_cons, List.mem_append, List.mem_flatMap]
    obtain rfl | hpiece := List.mem_cons.1 hpiece
    · exact .inl hc
    · exact .inr ⟨piece, hpiece, List.mem_cons_of_mem sep hc⟩

theorem intercalate_concat (hne : pieces ≠ []) (piece : List α) :
    [sep].intercalate (pieces ++ [piece]) = [sep].intercalate pieces ++ sep :: piece := by
  obtain ⟨first, pieces, rfl⟩ := List.exists_cons_of_ne_nil hne
  rw [List.cons_append, intercalate_cons, intercalate_cons, List.flatMap_append, List.flatMap_singleton,
    List.append_assoc]

variable [DecidableEq α]

theorem splitAt_eq_splitOn (sep : α) (xs : List α) : splitAt sep xs = xs.splitOn sep := by
  induction xs with
  | nil => rfl
  | cons x xs ih =>
    have hne := List.splitOn_ne_nil sep xs
    show splitStep sep x (splitAt sep xs) = _
    rw [ih, List.splitOn_cons_eq_if_modifyHead]
    unfold splitStep
    by_cases hx : x = sep
    · rw [if_pos hx, if_pos (beq_iff_eq.2 hx)]
    · rw [if_neg hx, if_neg (mt beq_iff_eq.1 hx)]
      cases hpieces : xs.splitOn sep with
      | nil => exact absurd hpieces hne
      | cons piece pieces => rfl

theorem splitAt_intercalate (hne : pieces ≠ []) (hsep : ∀ piece ∈ pieces, sep ∉ piece) :
    splitAt sep ([sep].intercalate pieces) = pieces := by
  rw [splitAt_eq_splitOn]
  exact List.splitOn_intercalate sep hsep hne

end Pieces

end LineAtlas.Text
