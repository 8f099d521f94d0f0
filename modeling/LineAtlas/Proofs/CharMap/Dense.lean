import LineAtlas.Proofs.CharMap.Resolve
import Mathlib.Order.Bounds.Basic

/-!
# Dense character maps

A character map with few explicit slots means its dense expansion, in which each slot says itself what holds at its
offset.  `CharMap.Recoded` relates the ways of writing a line that the format allows for one meaning: the expansion, and
further slots behind the last that repeat it.

The key facts: looking up an offset is a recursion on the offset (`resolve_succ`), it finds the last explicit slot up to
the offset (`resolve_eq_some_iff`), and it finds the same in all the ways of writing a line (`Recoded.resolve_eq`), so
these name the same mappings (`Recoded.mapping_mem_slots_iff`).
-/

namespace LineAtlas.CharMap

/-- The offsets of the explicit slots at or before an offset; offsets past the last slot stand for that of the last. -/
def explicitUpTo (m : CharMap) (offset : Nat) : Set Nat :=
  {j | j ≤ min offset (m.slots.length - 1) ∧ ∃ slot, m.slots[j]? = some slot ∧ slot.isExplicit = true}

/-- The character map in which each slot says what holds at its offset, where anything does. -/
def dense (m : CharMap) : CharMap := ⟨(List.range m.slots.length).map fun offset => (m.resolve offset).getD .same⟩

/-- The character map with slots behind the last that say nothing new. -/
def padded (m : CharMap) (n : Nat) : CharMap := ⟨m.slots ++ List.replicate n .same⟩

/-- Ways of writing the same line: it may be expanded, slots may be put behind its last or taken from there, and all
this may be done several times. -/
inductive Recoded : CharMap → CharMap → Prop where
  | refl (m : CharMap) : Recoded m m
  | dense (m : CharMap) : Recoded m m.dense
  | padded (m : CharMap) (n : Nat) : Recoded m (m.padded n)
  | symm {a b : CharMap} (h : Recoded a b) : Recoded b a
  | trans {a b c : CharMap} (hab : Recoded a b) (hbc : Recoded b c) : Recoded a c

/-! ### Looking up, offset by offset -/

/-- The explicit slot at an offset. -/
def explicitAt? (m : CharMap) (offset : Nat) : Option Slot := m.slots[offset]?.filter Slot.isExplicit

theorem explicitAt?_eq_some_iff {m : CharMap} {offset : Nat} {slot : Slot} :
    m.explicitAt? offset = some slot ↔ m.slots[offset]? = some slot ∧ slot.isExplicit = true := by
  unfold explicitAt?
  rw [Option.filter_eq_some_iff]

theorem resolve_zero (m : CharMap) : m.resolve 0 = m.explicitAt? 0 := by
  unfold resolve explicitAt?
  cases m.slots with
  | nil => rfl
  | cons slot slots => by_cases h : slot.isExplicit = true <;> simp [Option.filter_some, h]

/-- An explicit slot holds at its offset, and what held before it holds on where there is none. -/
theorem resolve_succ (m : CharMap) (offset : Nat) :
    m.resolve (offset + 1) = (m.explicitAt? (offset + 1)).or (m.resolve offset) := by
  unfold resolve explicitAt?
  rw [List.take_add_one (i := offset + 1), List.reverse_append, List.find?_append]
  cases m.slots[offset + 1]? with
  | none => rfl
  | some slot => by_cases h : slot.isExplicit = true <;> simp [Option.filter_some, h]

theorem resolve_congr {m m' : CharMap} (h : ∀ offset, m.explicitAt? offset = m'.explicitAt? offset) (offset : Nat) :
    m.resolve offset = m'.resolve offset := by
  induction offset with
  | zero => rw [resolve_zero, resolve_zero, h]
  | succ offset ih => rw [resolve_succ, resolve_succ, h, ih]

theorem isExplicit_of_resolve {m : CharMap} {offset : Nat} {slot : Slot} (h : m.resolve offset = some slot) :
    slot.isExplicit = true :=
  List.find?_some h

theorem resolve_ne_same (m : CharMap) (offset : Nat) : m.resolve offset ≠ some .same := by
  intro h
  cases isExplicit_of_resolve h

/-! ### The last explicit slot -/

/-- What is found stands at some offset up to the one asked for, and no slot in between is explicit. -/
theorem resolve_eq_some_iff_exists {m : CharMap} {offset : Nat} {slot : Slot} :
    m.resolve offset = some slot ↔
      ∃ j ≤ offset, m.explicitAt? j = some slot ∧ ∀ k, j < k → k ≤ offset → m.explicitAt? k = none := by
  induction offset with
  | zero =>
    rw [resolve_zero]
    constructor
    · intro h
      exact ⟨0, Nat.le_refl 0, h, fun k hk hk' => by omega⟩
    · rintro ⟨j, hj, h, -⟩
      rwa [Nat.le_zero.1 hj] at h
  | succ offset ih =>
    rw [resolve_succ]
    cases hlast : m.explicitAt? (offset + 1) with
    | some found =>
      rw [Option.some_or, Option.some.injEq]
      constructor
      · rintro rfl
        exact ⟨offset + 1, Nat.le_refl _, hlast, fun k hk hk' => by omega⟩
      · rintro ⟨j, hj, h, hafter⟩
        -- The slot at `offset + 1` is explicit, so that no earlier one can be the last.
        obtain rfl : j = offset + 1 := by
          by_contra hne
          have hnone := hafter (offset + 1) (by omega) (Nat.le_refl _)
          rw [hlast] at hnone
          cases hnone
        rw [hlast] at h
        exact Option.some.inj h
    | none =>
      rw [Option.none_or, ih]
      constructor
      · rintro ⟨j, hj, h, hafter⟩
        refine ⟨j, by omega, h, fun k hk hk' => ?_⟩
        by_cases hk'' : k = offset + 1
        · rw [hk'', hlast]
        · exact hafter k hk (by omega)
      · rintro ⟨j, hj, h, hafter⟩
        have hne : j ≠ offset + 1 := by
          rintro rfl
          rw [hlast] at h
          cases h
        exact ⟨j, by omega, h, fun k hk hk' => hafter k hk (by omega)⟩

theorem mem_explicitUpTo {m : CharMap} {offset j : Nat} :
    j ∈ m.explicitUpTo offset ↔ j ≤ offset ∧ (m.explicitAt? j).isSome = true := by
  unfold explicitUpTo
  rw [Set.mem_ofPred_eq, Option.isSome_iff_exists]
  simp only [explicitAt?_eq_some_iff]
  constructor
  · rintro ⟨hj, h⟩
    exact ⟨by omega, h⟩
  · rintro ⟨hj, slot, hslot, h⟩
    have hlt : j < m.slots.length := (List.getElem?_eq_some_iff.1 hslot).1
    exact ⟨by omega, slot, hslot, h⟩

/-- What holds at an offset is the last explicit slot up to it. -/
theorem resolve_eq_some_iff {m : CharMap} {offset : Nat} {slot : Slot} :
    m.resolve offset = some slot ↔ ∃ j, IsGreatest (m.explicitUpTo offset) j ∧ m.slots[j]? = some slot := by
  rw [resolve_eq_some_iff_exists]
  constructor
  · rintro ⟨j, hj, h, hafter⟩
    refine ⟨j, ⟨mem_explicitUpTo.2 ⟨hj, Option.isSome_of_eq_some h⟩, fun k hk => ?_⟩, (explicitAt?_eq_some_iff.1 h).1⟩
    obtain ⟨hk, hsome⟩ := mem_explicitUpTo.1 hk
    by_contra hlt
    rw [hafter k (by omega) hk] at hsome
    cases hsome
  · rintro ⟨j, ⟨hmem, hgreatest⟩, hslot⟩
    obtain ⟨hj, hsome⟩ := mem_explicitUpTo.1 hmem
    obtain ⟨found, hfound⟩ := Option.isSome_iff_exists.1 hsome
    obtain rfl : found = slot := Option.some.inj ((explicitAt?_eq_some_iff.1 hfound).1.symm.trans hslot)
    refine ⟨j, hj, hfound, fun k hk hk' => ?_⟩
    by_contra hne
    have hle : k ≤ j := hgreatest (mem_explicitUpTo.2 ⟨hk', Option.isSome_iff_ne_none.2 hne⟩)
    omega

theorem resolve_eq_none_iff {m : CharMap} {offset : Nat} : m.resolve offset = none ↔ m.explicitUpTo offset = ∅ := by
  rw [Set.eq_empty_iff_forall_notMem]
  simp only [mem_explicitUpTo, not_and]
  induction offset with
  | zero =>
    rw [resolve_zero]
    constructor
    · intro h j hj
      rw [Nat.le_zero.1 hj, h]
      exact nofun
    · intro h
      simpa using h 0 (Nat.le_refl 0)
  | succ offset ih =>
    rw [resolve_succ, Option.or_eq_none_iff, ih]
    constructor
    · rintro ⟨hlast, hbefore⟩ j hj
      by_cases hj' : j = offset + 1
      · rw [hj', hlast]
        exact nofun
      · exact hbefore j (by omega)
    · intro h
      exact ⟨by simpa using h (offset + 1) (Nat.le_refl _), fun j hj => h j (by omega)⟩

/-! ### Other ways of writing a line -/

theorem getElem?_dense (m : CharMap) (offset : Nat) :
    m.dense.slots[offset]? = if offset < m.slots.length then some ((m.resolve offset).getD .same) else none := by
  unfold dense
  split
  · rename_i h
    simp [h]
  · rename_i h
    simp [h]

/-- A slot of the expansion is explicit where something holds. -/
theorem explicitAt?_dense (m : CharMap) (offset : Nat) :
    m.dense.explicitAt? offset = if offset < m.slots.length then m.resolve offset else none := by
  unfold explicitAt?
  rw [getElem?_dense]
  split
  · cases h : m.resolve offset with
    | none => rfl
    | some slot => simp [isExplicit_of_resolve h]
  · rfl

theorem explicitAt?_eq_none_of_le {m : CharMap} {offset : Nat} (h : m.slots.length ≤ offset) :
    m.explicitAt? offset = none := by
  unfold explicitAt?
  rw [List.getElem?_eq_none_iff.2 h]
  rfl

theorem resolve_dense (m : CharMap) (offset : Nat) : m.dense.resolve offset = m.resolve offset := by
  induction offset with
  | zero =>
    rw [resolve_zero, explicitAt?_dense]
    split
    · rfl
    · rw [resolve_zero, explicitAt?_eq_none_of_le (by omega)]
  | succ offset ih =>
    rw [resolve_succ, explicitAt?_dense, ih]
    split
    · -- What holds at `offset` is already part of what holds at the next offset.
      rw [resolve_succ, Option.or_assoc, Option.or_self]
    · rw [resolve_succ, explicitAt?_eq_none_of_le (by omega)]

theorem explicitAt?_padded (m : CharMap) (n offset : Nat) : (m.padded n).explicitAt? offset = m.explicitAt? offset := by
  unfold explicitAt? padded
  dsimp only
  by_cases h : offset < m.slots.length
  · rw [List.getElem?_append_left h]
  · rw [List.getElem?_append_right (by omega), List.getElem?_eq_none_iff.2 (Nat.not_lt.1 h), List.getElem?_replicate]
    split <;> rfl

theorem resolve_padded (m : CharMap) (n offset : Nat) : (m.padded n).resolve offset = m.resolve offset :=
  resolve_congr (m.explicitAt?_padded n) offset

theorem Recoded.resolve_eq {m m' : CharMap} (h : Recoded m m') (offset : Nat) :
    m'.resolve offset = m.resolve offset := by
  induction h with
  | refl m => rfl
  | dense m => exact m.resolve_dense offset
  | padded m n => exact m.resolve_padded n offset
  | symm _ ih => exact ih.symm
  | trans _ _ ihab ihbc => rw [ihbc, ihab]

/-- A line names the mappings that hold somewhere on it. -/
theorem mapping_mem_slots_iff {m : CharMap} {id : Nat} :
    .mapping id ∈ m.slots ↔ ∃ offset, m.resolve offset = some (.mapping id) := by
  constructor
  · intro h
    obtain ⟨offset, hoffset⟩ := List.mem_iff_getElem?.1 h
    exact ⟨offset, resolve_of_getElem? hoffset rfl⟩
  · rintro ⟨offset, h⟩
    exact mem_slots_of_resolve h

theorem Recoded.mapping_mem_slots_iff {m m' : CharMap} (h : Recoded m m') {id : Nat} :
    .mapping id ∈ m'.slots ↔ .mapping id ∈ m.slots := by
  simp only [CharMap.mapping_mem_slots_iff, h.resolve_eq]

end LineAtlas.CharMap
