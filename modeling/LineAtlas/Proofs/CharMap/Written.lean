import LineAtlas.Proofs.CharMap.Spelled

/-!
# Written character maps

`CharMap.literal` writes a character map as an array literal in which a slot that says nothing new is written as
nothing.  Where the last slot is written as nothing, a comma after it keeps it from being lost; a line without slots is
left empty.  This is one of the spellings of the character map (`CharMap.between_inner`), and so what is written is read
as the character map it was written for (`CharMap.read_literal`).
-/

namespace LineAtlas

/-- The characters of a slot in an array literal. -/
def Slot.literal : Slot → List Char
  | same => []
  | unmapped => ['-', '1']
  | mapping id => Numeral.chars id

namespace CharMap

/-- What stands between the brackets of an array literal. -/
def inner (m : CharMap) : List Char :=
  let body := [','].intercalate (m.slots.map Slot.literal)
  if m.slots.getLast? = some .same then body ++ [','] else body

/-- A character map as an array literal, and as nothing where it has no slot. -/
def literal (m : CharMap) : String :=
  if m.isEmpty then "" else String.ofList ('[' :: m.inner ++ [']'])

end CharMap

namespace Slot

variable {slot : Slot}

theorem mem_literal {c : Char} (h : c ∈ slot.literal) : c = '-' ∨ c.isDigit = true := by
  cases slot with
  | same => cases h
  | unmapped =>
    obtain rfl | rfl : c = '-' ∨ c = '1' := by simpa [literal] using h
    · exact .inl rfl
    · exact .inr rfl
  | mapping id => exact .inr (Numeral.isDigit_of_mem_chars h)

theorem mem_of_mem_map_literal {slots : List Slot} {token : List Char} (h : token ∈ slots.map literal) :
    ∀ c ∈ token, c = '-' ∨ c.isDigit = true := by
  obtain ⟨slot, -, rfl⟩ := List.mem_map.1 h
  exact fun _ => mem_literal

theorem literal_eq_nil_iff : slot.literal = [] ↔ slot = same := by
  cases slot with
  | same => exact iff_of_true rfl rfl
  | unmapped => exact iff_of_false nofun nofun
  | mapping id => exact iff_of_false (Numeral.chars_ne_nil id) nofun

theorem spelling_literal (h : ∀ id ∈ slot.mapping?, id < Numeral.signedRange) : slot.Spelling slot.literal := by
  cases slot with
  | same => exact .nothing
  | unmapped => exact .negative (by decide) (List.all_eq_true.1 rfl) (by decide) (by decide)
  | mapping id => exact .number (.inl rfl) 0 (h id rfl)

end Slot

namespace CharMap

variable {m : CharMap}

theorem mem_inner {c : Char} (h : c ∈ m.inner) : c = ',' ∨ c = '-' ∨ c.isDigit = true := by
  have hbody : ∀ c ∈ [','].intercalate (m.slots.map Slot.literal), c = ',' ∨ c = '-' ∨ c.isDigit = true := by
    intro c hc
    obtain hcomma | ⟨piece, hpiece, hc⟩ := Text.mem_intercalate hc
    · exact .inl hcomma
    · exact .inr (Slot.mem_of_mem_map_literal hpiece c hc)
  unfold inner at h
  dsimp only at h
  split at h
  · obtain hc | hc := List.mem_append.1 h
    · exact hbody c hc
    · exact .inl (List.mem_singleton.1 hc)
  · exact hbody c h

/-- What is written between the brackets is a spelling of the slots, without blanks. -/
theorem between_inner (hne : m.slots ≠ []) (hids : ∀ id ∈ m.mappings, id < Numeral.signedRange) :
    Between m.slots m.inner := by
  have hspelling : ∀ slot ∈ m.slots, slot.Spelling slot.literal := fun slot hslot =>
    Slot.spelling_literal fun id hid => hids id (List.mem_filterMap.2 ⟨slot, hslot, hid⟩)
  let elements := m.slots.pmap (fun slot h => (⟨slot, [], slot.literal, [], h, nofun, nofun⟩ : Element)) hspelling
  have hslots : elements.map Element.slot = m.slots := by simp [elements, List.map_pmap]
  have hchars : elements.map Element.chars = m.slots.map Slot.literal := by
    simp [elements, List.map_pmap, Element.chars]
  have helements : elements ≠ [] := by simpa [elements] using hne
  unfold inner
  dsimp only
  rw [← hchars]
  by_cases hlast : m.slots.getLast? = some .same
  · rw [if_pos hlast]
    exact hslots ▸ .closed helements nofun
  · rw [if_neg hlast, ← hslots]
    refine .bare helements fun e he htoken => hlast ?_
    have htoken' : e.token = e.slot.literal := by
      obtain ⟨slot, -, rfl⟩ := List.mem_pmap.1 (List.mem_of_getLast? he)
      rfl
    have hslot : e.slot = .same := Slot.literal_eq_nil_iff.1 (htoken'.symm.trans htoken)
    rw [← hslots, List.getLast?_map, he, Option.map_some, hslot]

theorem toList_literal (h : m.slots ≠ []) : m.literal.toList = '[' :: (m.inner ++ [']']) := by
  unfold literal isEmpty
  rw [List.isEmpty_eq_false_iff.2 h, if_neg Bool.false_ne_true, String.toList_ofList, List.cons_append]

theorem literal_eq_empty_iff : m.literal = "" ↔ m.slots = [] := by
  constructor
  · intro h
    by_contra hslots
    have hchars := toList_literal hslots
    rw [h] at hchars
    cases hchars
  · intro h
    exact if_pos (List.isEmpty_iff.2 h)

theorem mem_literal {c : Char} (h : c ∈ m.literal.toList) :
    c = '[' ∨ c = ']' ∨ c = ',' ∨ c = '-' ∨ c.isDigit = true := by
  by_cases hne : m.slots = []
  · rw [literal_eq_empty_iff.2 hne] at h
    cases h
  · rw [toList_literal hne, List.mem_cons, List.mem_append, List.mem_singleton] at h
    obtain rfl | h | rfl := h
    · exact .inl rfl
    · exact .inr (.inr (mem_inner h))
    · exact .inr (.inl rfl)

private theorem isBlank_of_mem_literal {c : Char} (h : c ∈ m.literal.toList) : Text.isBlank c = false := by
  obtain rfl | rfl | rfl | rfl | hdigit := mem_literal h
  · rfl
  · rfl
  · rfl
  · rfl
  · exact Text.isBlank_of_isDigit hdigit

theorem trim_literal (m : CharMap) : Text.trim m.literal = m.literal :=
  Text.trim_of_trimChars (Text.trimChars_eq_self_of_forall fun _ => isBlank_of_mem_literal)

/-- A written character map is read as itself. -/
theorem read_literal (hne : m.slots ≠ []) (hids : ∀ id ∈ m.mappings, id < Numeral.signedRange) :
    read m.literal = .ok m := by
  have hinside : inside? (Text.trimChars m.literal.toList) = some m.inner := by
    rw [← Text.toList_trim, trim_literal, toList_literal hne, inside?_brackets]
  exact read_of_between hinside (between_inner hne hids)

end CharMap

end LineAtlas
