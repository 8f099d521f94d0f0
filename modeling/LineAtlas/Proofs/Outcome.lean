import Mathlib.Data.List.Forall2

/-!
# Results of steps that can fail

When a chain of steps succeeds, and what then came out of each of them; what remains of a fault that is wrapped; and
which fault comes out of steps of which the first that fails decides.
-/

namespace Except

variable {ε δ α β : Type}

theorem map_eq_ok_iff {f : α → β} {x : Except ε α} {b : β} : x.map f = .ok b ↔ ∃ a, x = .ok a ∧ f a = b := by
  cases x with
  | error e => simp [Except.map]
  | ok a => simp [Except.map]

theorem bind_eq_ok_iff {f : α → Except ε β} {x : Except ε α} {b : β} :
    (x >>= f) = .ok b ↔ ∃ a, x = .ok a ∧ f a = .ok b := by
  cases x with
  | error e => simp [bind, Except.bind]
  | ok a => simp [bind, Except.bind]

theorem mapError_eq_ok_iff {f : ε → δ} {x : Except ε α} {a : α} : x.mapError f = .ok a ↔ x = .ok a := by
  cases x with
  | error e => simp [Except.mapError]
  | ok a => simp [Except.mapError]

theorem mapError_eq_error_iff {f : ε → δ} {x : Except ε α} {d : δ} :
    x.mapError f = .error d ↔ ∃ e, x = .error e ∧ f e = d := by
  cases x with
  | error e => simp [Except.mapError]
  | ok a => simp [Except.mapError]

theorem toOption_eq_some_iff {x : Except ε α} {a : α} : x.toOption = some a ↔ x = .ok a := by
  cases x with
  | error e => simp [Except.toOption]
  | ok a => simp [Except.toOption]

/-- Steps taken one after the other succeed when each of them does. -/
theorem mapM_eq_ok_iff {f : α → Except ε β} {xs : List α} {ys : List β} :
    xs.mapM f = .ok ys ↔ List.Forall₂ (fun x y => f x = .ok y) xs ys := by
  induction xs generalizing ys with
  | nil =>
    rw [List.mapM_nil, List.forall₂_nil_left_iff]
    exact ⟨fun h => by cases h; rfl, fun h => h ▸ rfl⟩
  | cons x xs ih =>
    rw [List.mapM_cons, bind_eq_ok_iff, List.forall₂_cons_left_iff]
    constructor
    · rintro ⟨y, hy, h⟩
      obtain ⟨zs, hzs, hys⟩ := bind_eq_ok_iff.1 h
      cases hys
      exact ⟨y, zs, hy, ih.1 hzs, rfl⟩
    · rintro ⟨y, zs, hy, hzs, rfl⟩
      exact ⟨y, hy, bind_eq_ok_iff.2 ⟨zs, ih.2 hzs, rfl⟩⟩

theorem exists_getElem?_of_mapM_eq_ok {f : α → Except ε β} {xs : List α} {ys : List β} (h : xs.mapM f = .ok ys)
    {i : Nat} {x : α} (hx : xs[i]? = some x) : ∃ y, ys[i]? = some y ∧ f x = .ok y := by
  have hall := mapM_eq_ok_iff.1 h
  obtain ⟨hi, rfl⟩ := List.getElem?_eq_some_iff.1 hx
  have hi' : i < ys.length := hall.length_eq ▸ hi
  exact ⟨ys[i], List.getElem?_eq_getElem hi', hall.get hi hi'⟩

/-- Steps taken one after the other fail with the fault of one of them. -/
theorem exists_mem_of_mapM_eq_error {f : α → Except ε β} {xs : List α} {e : ε} (h : xs.mapM f = .error e) :
    ∃ x ∈ xs, f x = .error e := by
  induction xs with
  | nil => cases h
  | cons x xs ih =>
    rw [List.mapM_cons] at h
    cases hx : f x with
    | error e' =>
      rw [hx] at h
      cases h
      exact ⟨x, List.mem_cons_self, hx⟩
    | ok y =>
      cases hxs : xs.mapM f with
      | error e' =>
        rw [hx, hxs] at h
        cases h
        obtain ⟨x', hmem, hx'⟩ := ih hxs
        exact ⟨x', List.mem_cons_of_mem x hmem, hx'⟩
      | ok ys =>
        rw [hx, hxs] at h
        cases h

/-! ### The fault that comes out -/

/-- The fault of a step, if it failed. -/
def error? : Except ε α → Option ε
  | .ok _ => none
  | .error e => some e

theorem error?_eq_some_iff {x : Except ε α} {e : ε} : x.error? = some e ↔ x = .error e := by
  cases x with
  | error e' => simp [error?]
  | ok a => simp [error?]

theorem error?_eq_none_iff {x : Except ε α} : x.error? = none ↔ ∃ a, x = .ok a := by
  cases x with
  | error e => simp [error?]
  | ok a => simp [error?]

/-- Where the fault of what follows does not depend on what came out before, the first of both faults comes out. -/
theorem error?_bind {f : α → Except ε β} {x : Except ε α} {fault : Option ε}
    (h : ∀ a, x = .ok a → (f a).error? = fault) : (x >>= f).error? = x.error?.or fault := by
  cases x with
  | error e => rfl
  | ok a => exact h a rfl

/-- Of steps taken one after the other the first fault comes out. -/
theorem error?_mapM (f : α → Except ε β) (xs : List α) : (xs.mapM f).error? = xs.findSome? fun x => (f x).error? := by
  induction xs with
  | nil => rfl
  | cons x xs ih =>
    have hlast (y : β) (ys : List β) (_ : xs.mapM f = .ok ys) :
        (pure (y :: ys) : Except ε (List β)).error? = none := rfl
    have hrest (y : β) (_ : f x = .ok y) :
        (do let ys ← xs.mapM f; pure (y :: ys) : Except ε (List β)).error? = (xs.mapM f).error? := by
      rw [error?_bind (hlast y), Option.or_none]
    rw [List.mapM_cons, error?_bind hrest, ih, List.findSome?_cons]
    cases (f x).error? <;> rfl

end Except
