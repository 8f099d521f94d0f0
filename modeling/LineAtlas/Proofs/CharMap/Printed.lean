import LineAtlas.CharMap.Basic
import LineAtlas.Proofs.Text.Numeral
import LineAtlas.Proofs.Text.Pieces

/-!
# Printed character maps

A printed character map is its slots with a blank between them, a point for one that says nothing new and a dash for one
without a mapping.  Nothing is lost: the words of the text are the texts of the slots (`splitAt_text`), a slot is known
by its text (`Slot.text_injective`), and no slot is printed like a word of the text for a line without slots.  So equal
texts come from equal slots (`printed_alike_iff`).
-/

namespace LineAtlas

/-- A printed slot consists of digits or is one of two signs. -/
theorem Slot.mem_text {slot : Slot} {c : Char} (h : c ∈ slot.text.toList) : c = '.' ∨ c = '-' ∨ c.isDigit = true := by
  cases slot with
  | same =>
    left
    simpa [Slot.text] using h
  | unmapped =>
    right; left
    simpa [Slot.text] using h
  | mapping id =>
    right; right
    unfold Slot.text Numeral.ofNat at h
    rw [String.toList_ofList] at h
    exact Numeral.isDigit_of_mem_chars h

private theorem ofNat_injective {m n : Nat} (h : Numeral.ofNat m = Numeral.ofNat n) : m = n := by
  have hchars : Numeral.chars m = Numeral.chars n := String.ofList_injective h
  have hvalue := congrArg Numeral.value hchars
  rwa [Numeral.value_chars, Numeral.value_chars] at hvalue

/-- No number is printed as a sign. -/
private theorem ofNat_ne_singleton {c : Char} (hc : c.isDigit = false) (n : Nat) :
    Numeral.ofNat n ≠ String.ofList [c] := by
  intro h
  have hchars : Numeral.chars n = [c] := String.ofList_injective h
  have hmem : c ∈ Numeral.chars n := by simp [hchars]
  have hdigit := Numeral.isDigit_of_mem_chars hmem
  simp [hc] at hdigit

theorem Slot.text_injective : Function.Injective Slot.text := by
  intro s t h
  have hpoint : ∀ n, Numeral.ofNat n ≠ "." := ofNat_ne_singleton rfl
  have hdash : ∀ n, Numeral.ofNat n ≠ "-" := ofNat_ne_singleton rfl
  cases s with
  | same =>
    cases t with
    | same => rfl
    | unmapped => simp [Slot.text] at h
    | mapping n => exact absurd h.symm (hpoint n)
  | unmapped =>
    cases t with
    | same => simp [Slot.text] at h
    | unmapped => rfl
    | mapping n => exact absurd h.symm (hdash n)
  | mapping m =>
    cases t with
    | same => exact absurd h (hpoint m)
    | unmapped => exact absurd h (hdash m)
    | mapping n => rw [ofNat_injective h]

namespace CharMap

/-- The words of a printed character map that has slots are its slots. -/
theorem splitAt_text {m : CharMap} (h : m.slots ≠ []) :
    Text.splitAt ' ' m.text.toList = m.slots.map (·.text.toList) := by
  have hempty : m.isEmpty = false := by simpa [isEmpty] using h
  have hblank : ∀ piece ∈ m.slots.map (·.text.toList), ' ' ∉ piece := by
    intro piece hpiece hmem
    obtain ⟨slot, -, rfl⟩ := List.mem_map.1 hpiece
    rcases Slot.mem_text hmem with hc | hc | hc <;> simp at hc
  have htext : m.text.toList = [' '].intercalate (m.slots.map (·.text.toList)) := by
    simp [text, hempty, String.toList_intercalate, Function.comp_def]
  rw [htext]
  exact Text.splitAt_intercalate (by simpa using h) hblank

/-- The text for a line without slots is that of no other line. -/
theorem slots_eq_nil_of_text {a b : CharMap} (ha : a.slots = []) (h : a.text = b.text) : b.slots = [] := by
  by_contra hb
  have htext : a.text = "<no mappings>" := by simp [text, isEmpty, ha]
  have hfirst : Text.splitAt ' ' "<no mappings>".toList = ["<no".toList, "mappings>".toList] := by decide
  have hwords := splitAt_text hb
  rw [← h, htext, hfirst] at hwords
  -- The first word would be a slot, and no slot holds an angle bracket.
  have hmem : "<no".toList ∈ b.slots.map (·.text.toList) := by simp [← hwords]
  obtain ⟨slot, -, hslot⟩ := List.mem_map.1 hmem
  have hc : '<' ∈ slot.text.toList := by simp [hslot]
  rcases Slot.mem_text hc with hc | hc | hc <;> simp at hc

/-- Two character maps are printed alike only if they have the same slots. -/
theorem printed_alike_iff (a b : CharMap) : a.text = b.text ↔ a.slots = b.slots := by
  constructor
  · intro h
    by_cases ha : a.slots = []
    · rw [ha, slots_eq_nil_of_text ha h]
    · have hb : b.slots ≠ [] := fun hb => ha (slots_eq_nil_of_text hb h.symm)
      have htexts : a.slots.map (·.text.toList) = b.slots.map (·.text.toList) := by
        rw [← splitAt_text ha, ← splitAt_text hb, h]
      have hinj : Function.Injective fun slot : Slot => slot.text.toList := by
        intro s t hst
        exact Slot.text_injective (String.toList_inj.1 hst)
      exact List.map_injective_iff.2 hinj htexts
  · intro h
    rw [text, text, isEmpty, isEmpty, h]

end CharMap

end LineAtlas
