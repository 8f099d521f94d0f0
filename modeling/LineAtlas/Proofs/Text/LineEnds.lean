import LineAtlas.Proofs.Text.Pieces
import LineAtlas.Proofs.Text.Search

/-!
# Line ends

A text may end its lines with line feeds or with a carriage return before each of them.  `withReturns` turns the first
kind into the second.  The key facts: the text then has as many lines, each of them the piece between two line feeds as
it was (`linesWith_returned`), and they differ from those before in blanks at their ends at most
(`map_trim_lines_withReturns`).
-/

namespace LineAtlas.Text

/-- The items with `ret` in front of each `feed`. -/
def returned {α : Type} [DecidableEq α] (feed ret : α) (cs : List α) : List α :=
  cs.flatMap fun c => if c = feed then [ret, feed] else [c]

/-- A text with a carriage return in front of each line feed. -/
def withReturns (s : String) : String := String.ofList (returned '\n' '\r' s.toList)

section Pieces

variable {α : Type} [DecidableEq α] {feed ret : α}

theorem exists_splitAt_eq_cons (sep : α) (cs : List α) : ∃ piece pieces, splitAt sep cs = piece :: pieces := by
  rw [splitAt_eq_splitOn]
  exact List.exists_cons_of_ne_nil (List.splitOn_ne_nil sep cs)

/-- All pieces but the last get `ret` at their ends. -/
theorem splitAt_returned (hne : ret ≠ feed) (cs : List α) :
    splitAt feed (returned feed ret cs) =
      (splitAt feed cs).dropLast.map (· ++ [ret]) ++ (splitAt feed cs).getLast?.toList := by
  induction cs with
  | nil => rfl
  | cons c cs ih =>
    obtain ⟨piece, pieces, hpieces⟩ := exists_splitAt_eq_cons feed cs
    have hstep : splitAt feed (c :: cs) = splitStep feed c (splitAt feed cs) := rfl
    by_cases hc : c = feed
    · subst hc
      have hreturned : splitAt c (returned c ret (c :: cs)) =
          splitStep c ret (splitStep c c (splitAt c (returned c ret cs))) := by
        simp [returned, splitAt]
      rw [hreturned, ih, hstep, hpieces]
      simp [splitStep, hne]
    · have hreturned : splitAt feed (returned feed ret (c :: cs)) =
          splitStep feed c (splitAt feed (returned feed ret cs)) := by
        simp [returned, splitAt, hc]
      rw [hreturned, ih, hstep, hpieces]
      cases pieces <;> simp [splitStep, hc]

theorem dropReturn_concat (ret : α) (line : List α) : dropReturn ret (line ++ [ret]) = line := by
  simp [dropReturn]

/-- The lines of the text are then the pieces between its feeds, whatever these end with. -/
theorem linesWith_returned (hne : ret ≠ feed) (cs : List α) :
    linesWith feed ret (returned feed ret cs) =
      (splitAt feed cs).dropLast ++ ((splitAt feed cs).getLast?.filter (!·.isEmpty)).toList := by
  obtain ⟨piece, pieces, hpieces⟩ := exists_splitAt_eq_cons feed cs
  obtain ⟨last, hlast⟩ : ∃ last, (splitAt feed cs).getLast? = some last := by
    rw [hpieces]
    exact ⟨_, List.getLast?_cons⟩
  have hdropped : dropReturn ret ∘ (· ++ [ret]) = id := funext (dropReturn_concat ret)
  unfold linesWith
  rw [splitAt_returned hne, hlast, Option.toList_some]
  dsimp only
  rw [List.dropLast_concat, List.getLast?_concat, List.map_map, hdropped, List.map_id]

end Pieces

theorem trim_trim (s : String) : trim (trim s) = trim s := by
  rw [trim, toList_trim, trimChars_trimChars, trim]

theorem trimChars_dropReturn (line : List Char) : trimChars (dropReturn '\r' line) = trimChars line := by
  unfold dropReturn
  by_cases hreturn : line.getLast? = some '\r'
  · obtain ⟨front, rfl⟩ := List.getLast?_eq_some_iff.1 hreturn
    rw [if_pos hreturn, List.dropLast_concat, trimChars_concat (by decide)]
  · rw [if_neg hreturn]

/-- Carriage returns at the ends of lines change only the blanks around the lines. -/
theorem map_trim_lines_withReturns (s : String) : (lines (withReturns s)).map trim = (lines s).map trim := by
  have htrim : trim ∘ String.ofList = String.ofList ∘ trimChars := by
    funext cs
    rw [Function.comp_apply, trim, String.toList_ofList, Function.comp_apply]
  have hdropped : trimChars ∘ dropReturn '\r' = trimChars := funext trimChars_dropReturn
  unfold lines withReturns
  rw [String.toList_ofList, linesWith_returned (by decide), List.map_map, List.map_map, htrim, linesWith]
  simp only [List.map_append, List.map_map, Function.comp_assoc, hdropped]

end LineAtlas.Text
