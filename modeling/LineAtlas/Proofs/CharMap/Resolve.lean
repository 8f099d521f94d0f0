import LineAtlas.CharMap.Basic

/-!
# Looking up slots

`resolve` looks backwards from an offset.  An explicit slot is what it finds at its own offset
(`resolve_of_getElem?`), and whatever it finds is a slot of the line (`mem_slots_of_resolve`).
-/

namespace LineAtlas

theorem Slot.isExplicit_of_mapping? {slot : Slot} {id : Nat} (h : slot.mapping? = some id) :
    slot.isExplicit = true := by
  cases slot with
  | mapping _ => rfl
  | _ => cases h

theorem Slot.mapping?_eq_some {slot : Slot} {id : Nat} : slot.mapping? = some id ↔ slot = .mapping id := by
  cases slot <;> simp [Slot.mapping?]

namespace CharMap

theorem resolve_of_getElem? {m : CharMap} {offset : Nat} {slot : Slot} (h : m.slots[offset]? = some slot)
    (hs : slot.isExplicit = true) : m.resolve offset = some slot := by
  unfold resolve
  rw [List.take_add_one, h, List.reverse_append]
  exact List.find?_cons_of_pos hs

theorem mem_slots_of_resolve {m : CharMap} {offset : Nat} {slot : Slot} (h : m.resolve offset = some slot) :
    slot ∈ m.slots :=
  List.mem_of_mem_take (List.mem_reverse.1 (List.mem_of_find?_eq_some h))

theorem mem_mappings {m : CharMap} {id : Nat} : id ∈ m.mappings ↔ Slot.mapping id ∈ m.slots := by
  unfold mappings
  rw [List.mem_filterMap]
  constructor
  · rintro ⟨slot, hmem, hid⟩
    rwa [← Slot.mapping?_eq_some.1 hid]
  · intro h
    exact ⟨_, h, rfl⟩

theorem count_mappings (m : CharMap) (id : Nat) : m.mappings.count id = m.slots.count (.mapping id) := by
  unfold mappings
  induction m.slots with
  | nil => rfl
  | cons slot slots ih =>
    rw [List.filterMap_cons, List.count_cons, ← ih]
    cases slot with
    | mapping k => simp [Slot.mapping?, List.count_cons]
    | _ => simp [Slot.mapping?]

end CharMap

end LineAtlas
