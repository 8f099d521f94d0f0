import LineAtlas.Json.Reader
import LineAtlas.Proofs.Outcome

/-!
# What the JSON readers read

Two facts about what can come out of the readers.

* The readers of lists read the texts that the reader of values reads as such a list, and no others
  (`readStrings_eq_ok_iff`, `readItems_eq_ok_iff`).
* An integer in a field of an object that was read has at most 64 bits (`integer_le_of_field`): a larger number is
  read as a real one.

Both rest on `value_cases`, which says for each kind of value how it can have been read.
-/

namespace LineAtlas.Json

/-- A value without parts that is not a string; whole numbers have at most 64 bits. -/
def Value.IsPlain : Value → Prop
  | .null | .bool _ | .real .. => True
  | .integer n => n ≤ Numeral.wordLimit
  | _ => False

/-! ### Numbers -/

theorem takeDigits_le {limit n count : Nat} {place : Place} {cs : List Char} (h : n ≤ limit) :
    (takeDigits limit n count place cs).1 ≤ limit := by
  induction cs generalizing n count place with
  | nil => exact h
  | cons c cs ih =>
    unfold takeDigits
    split
    · rename_i hc
      rw [Bool.and_eq_true, decide_eq_true_eq] at hc
      exact ih hc.2
    · exact h

private theorem digit_le_wordLimit {c : Char} (h : c.isDigit = true) : Numeral.digit c ≤ Numeral.wordLimit := by
  have h9 : c.toNat ≤ 57 := (Char.isDigit_iff_toNat.1 h).2
  unfold Numeral.digit Numeral.wordLimit
  omega

/-- Whatever comes out of a result is plain. -/
private structure Plain (r : Result Value) : Prop where
  isPlain : ∀ {v next}, r = .ok (v, next) → v.IsPlain

private theorem plain_fail (cause : Cause) (place : Place) : Plain (failAt cause place) := ⟨nofun⟩

private theorem plain_real (negative : Bool) (size : Binary64.Magnitude) (cur : Cursor) :
    Plain (.ok (.real negative size, cur)) := by
  refine ⟨fun h => ?_⟩
  cases h
  trivial

private theorem plain_integer {n : Int} (h : n ≤ Numeral.wordLimit) (cur : Cursor) :
    Plain (.ok (.integer n, cur)) := by
  refine ⟨fun hv => ?_⟩
  cases hv
  exact h

private theorem plain_realAt (negative : Bool) (n : Nat) (exponent : Int) (cur : Cursor) :
    Plain (realAt negative n exponent cur) := by
  unfold realAt
  split
  · exact plain_real ..
  · exact plain_fail ..

private theorem plain_exponentPart (negative : Bool) (n : Nat) (start : Int) (place : Place) (rest : List Char) :
    Plain (exponentPart negative n start place rest) := by
  unfold exponentPart
  split
  split
  · exact plain_fail ..
  · split
    · unfold exponentDigits
      repeat' split
      all_goals first | exact plain_fail .. | exact plain_real .. | exact plain_realAt ..
    · exact plain_fail ..

private theorem plain_closeReal (negative : Bool) (n : Nat) (exponent : Int) (cur : Cursor) :
    Plain (closeReal negative n exponent cur) := by
  unfold closeReal
  split
  · split
    · exact plain_exponentPart ..
    · exact plain_realAt ..
  · exact plain_realAt ..

private theorem plain_afterWhole (negative : Bool) (n : Nat) (exponent : Int) (cur : Cursor) :
    Plain (afterWhole negative n exponent cur) := by
  unfold afterWhole
  split
  · unfold fractionPart
    repeat' split
    all_goals first | exact plain_fail .. | exact plain_closeReal ..
  · exact plain_closeReal ..

private theorem plain_wholeNumber {negative : Bool} {n : Nat} (h : n ≤ Numeral.wordLimit) (cur : Cursor) :
    Plain (wholeNumber negative n cur) := by
  unfold wholeNumber
  split
  · exact plain_integer (Int.ofNat_le.2 h) cur
  · split
    · exact plain_realAt ..
    · have hneg : -(n : Int) ≤ Numeral.wordLimit := by omega
      exact plain_integer hneg cur

private theorem plain_afterDigits {negative : Bool} {n : Nat} (h : n ≤ Numeral.wordLimit) (cur : Cursor) :
    Plain (afterDigits negative n cur) := by
  unfold afterDigits
  split
  · split
    · exact plain_afterWhole ..
    · exact plain_wholeNumber h _
  · exact plain_wholeNumber h _

private theorem plain_number (negative : Bool) (cur : Cursor) : Plain (number negative cur) := by
  unfold number
  split
  · exact plain_fail ..
  · rename_i c rest _
    dsimp only
    split
    · split
      · split
        · exact plain_fail ..
        · exact plain_afterDigits (Nat.zero_le _) _
      · exact plain_afterDigits (Nat.zero_le _) _
    · split
      · rename_i hdigit
        -- The first digit fits 64 bits, and no digit is taken that would not.
        have hfirst := digit_le_wordLimit hdigit
        split
        · exact plain_afterWhole ..
        · exact plain_afterDigits (takeDigits_le hfirst) _
      · exact plain_fail ..

private theorem plain_word {place : Place} {spelling : String} {v : Value} {rest : List Char} (h : v.IsPlain) :
    Plain (word place spelling v rest) := by
  unfold word
  cases wordFrom place spelling.toList rest with
  | error fault => exact ⟨nofun⟩
  | ok cur =>
    refine ⟨fun hv => ?_⟩
    cases hv
    exact h

/-! ### Values -/

/-- How a value can have been read. -/
theorem valueWith_cases {list object : Cursor → Result Value} {start next : Cursor} {v : Value}
    (h : valueWith list object start = .ok (v, next)) :
    v.IsPlain ∨
    (∃ s rest, v = .string s ∧ start.skip.rest = '"' :: rest ∧
      stringBody (start.skip.place.after '"') rest = .ok (s, next)) ∨
    (∃ rest, start.skip.rest = '[' :: rest ∧ list ⟨rest, start.skip.place.after '['⟩ = .ok (v, next)) ∨
    (∃ rest, start.skip.rest = '\x7b' :: rest ∧ object ⟨rest, start.skip.place.after '\x7b'⟩ = .ok (v, next)) := by
  unfold valueWith at h
  dsimp only at h
  split at h
  · cases h
  · rename_i c rest hrest
    split at h
    · exact .inl ((plain_word (v := .null) trivial).isPlain h)
    · exact .inl ((plain_word (v := .bool true) trivial).isPlain h)
    · exact .inl ((plain_word (v := .bool false) trivial).isPlain h)
    · exact .inl ((plain_number ..).isPlain h)
    · obtain ⟨⟨s, cur⟩, hs, hv⟩ := Except.map_eq_ok_iff.1 h
      cases hv
      exact .inr (.inl ⟨s, rest, rfl, hrest, hs⟩)
    · exact .inr (.inr (.inl ⟨rest, hrest, h⟩))
    · exact .inr (.inr (.inr ⟨rest, hrest, h⟩))
    · split at h
      · exact .inl ((plain_number ..).isPlain h)
      · cases h

/-- How a value in which brackets may nest can have been read. -/
theorem value_cases {depth : Nat} {start next : Cursor} {v : Value} (h : value depth start = .ok (v, next)) :
    v.IsPlain ∨
    (∃ s rest, v = .string s ∧ start.skip.rest = '"' :: rest ∧
      stringBody (start.skip.place.after '"') rest = .ok (s, next)) ∨
    (∃ deeper vs rest, v = .array vs ∧ depth = deeper + 1 ∧ start.skip.rest = '[' :: rest ∧
      items (value deeper) ⟨rest, start.skip.place.after '['⟩ = .ok (vs, next)) ∨
    (∃ deeper fs rest, v = .object fs ∧ depth = deeper + 1 ∧ start.skip.rest = '\x7b' :: rest ∧
      fields (value deeper) ⟨rest, start.skip.place.after '\x7b'⟩ = .ok (fs, next)) := by
  cases depth with
  | zero =>
    obtain hv | hv | ⟨rest, hrest, hv⟩ | ⟨rest, hrest, hv⟩ := valueWith_cases h
    · exact .inl hv
    · exact .inr (.inl hv)
    · cases hv
    · cases hv
  | succ deeper =>
    obtain hv | hv | ⟨rest, hrest, hv⟩ | ⟨rest, hrest, hv⟩ := valueWith_cases h
    · exact .inl hv
    · exact .inr (.inl hv)
    · obtain ⟨⟨vs, cur⟩, hvs, hv⟩ := Except.map_eq_ok_iff.1 hv
      cases hv
      exact .inr (.inr (.inl ⟨deeper, vs, rest, rfl, rfl, hrest, hvs⟩))
    · obtain ⟨⟨fs, cur⟩, hfs, hv⟩ := Except.map_eq_ok_iff.1 hv
      cases hv
      exact .inr (.inr (.inr ⟨deeper, fs, rest, rfl, rfl, hrest, hfs⟩))

/-- What does not depend on the brackets that may follow is read at every depth. -/
theorem value_of_valueWith {depth : Nat} {start : Cursor} {r : Result Value}
    (h : ∀ list object, valueWith list object start = r) : value depth start = r := by
  cases depth with
  | zero => exact h _ _
  | succ deeper => exact h _ _

/-! ### Lists of strings -/

theorem misplaced_ne_ok {α : Type} (wanted : Wanted) (start : Cursor) (r : α × Cursor) :
    misplaced wanted start ≠ .ok r := by
  unfold misplaced
  dsimp only
  split
  · exact nofun
  · exact nofun

theorem text_eq_ok_iff {depth : Nat} {start next : Cursor} {s : String} :
    text start = .ok (s, next) ↔ value depth start = .ok (.string s, next) := by
  constructor
  · intro h
    unfold text at h
    dsimp only at h
    split at h
    · rename_i rest hrest
      refine value_of_valueWith fun list object => ?_
      unfold valueWith
      simp only [hrest]
      exact Except.map_eq_ok_iff.2 ⟨(s, next), h, rfl⟩
    · exact absurd h (misplaced_ne_ok _ _ _)
  · intro h
    obtain hv | ⟨t, rest, hv, hrest, ht⟩ | ⟨_, vs, rest, hv, -⟩ | ⟨_, fs, rest, hv, -⟩ := value_cases h
    · exact hv.elim
    · cases hv
      unfold text
      simp only [hrest]
      exact ht
    · cases hv
    · cases hv

section Items

variable {α β : Type} {item : Cursor → Result α} {other : Cursor → Result β} {f : α → β} {next : Cursor}

private theorem itemsFrom_done {fuel : Nat} {done vs : List α} {cur : Cursor}
    (h : itemsFrom item fuel done cur = .ok (vs, next)) : ∃ more, vs = done.reverse ++ more := by
  induction fuel generalizing done cur with
  | zero => cases h
  | succ fuel ih =>
    unfold itemsFrom at h
    dsimp only at h
    split at h
    · cases h
      exact ⟨[], (List.append_nil _).symm⟩
    · split at h
      · cases h
      · split at h
        · cases h
        · rename_i v _ _
          obtain ⟨more, rfl⟩ := ih h
          exact ⟨v :: more, by simp⟩

/-- A list of items that another reader also reads, each as the item that `f` makes of it. -/
private theorem itemsFrom_map (hf : Function.Injective f)
    (h : ∀ {cur next v}, item cur = .ok (v, next) ↔ other cur = .ok (f v, next)) {fuel : Nat} {done vs : List α}
    {cur : Cursor} :
    itemsFrom item fuel done cur = .ok (vs, next) ↔ itemsFrom other fuel (done.map f) cur = .ok (vs.map f, next) := by
  induction fuel generalizing done cur with
  | zero => exact ⟨nofun, nofun⟩
  | succ fuel ih =>
    unfold itemsFrom
    dsimp only
    split
    · rw [← List.map_reverse, Except.ok.injEq, Except.ok.injEq, Prod.mk.injEq, Prod.mk.injEq,
        (List.map_injective_iff.2 hf).eq_iff]
    · rw [List.isEmpty_map]
      split
      · exact ⟨nofun, nofun⟩
      · constructor
        · intro hitem
          split at hitem
          · cases hitem
          · rename_i v after hv
            rw [h.1 hv]
            exact ih.1 hitem
        · intro hother
          split at hother
          · cases hother
          · rename_i w after hw
            -- The item that was read is in the list that came out, so `f` makes it of something.
            obtain ⟨more, hmore⟩ := itemsFrom_done hother
            have hmem : w ∈ vs.map f := by simp [hmore]
            obtain ⟨v, -, rfl⟩ := List.mem_map.1 hmem
            rw [h.2 hw]
            exact ih.2 hother

end Items

theorem items_text_eq_ok_iff {depth : Nat} {cur next : Cursor} {ss : List String} :
    items text cur = .ok (ss, next) ↔ items (value depth) cur = .ok (ss.map .string, next) :=
  itemsFrom_map (fun _ _ h => Value.string.inj h) text_eq_ok_iff

/-- A list of items that are read as values is read as the list of those values. -/
theorem listOf_eq_ok_iff {α : Type} {item : Cursor → Result α} {f : α → Value} {depth : Nat}
    (h : ∀ {cur next vs}, items item cur = .ok (vs, next) ↔ items (value depth) cur = .ok (vs.map f, next))
    {start next : Cursor} {vs : List α} :
    listOf item start = .ok (vs, next) ↔ value (depth + 1) start = .ok (.array (vs.map f), next) := by
  constructor
  · intro hlist
    unfold listOf at hlist
    dsimp only at hlist
    split at hlist
    · rename_i rest hrest
      unfold value valueWith
      simp only [hrest]
      exact Except.map_eq_ok_iff.2 ⟨_, h.1 hlist, rfl⟩
    · exact absurd hlist (misplaced_ne_ok _ _ _)
  · intro hvalue
    obtain hv | ⟨t, rest, hv, -⟩ | ⟨deeper, ws, rest, hv, hdepth, hrest, hws⟩ | ⟨_, fs, rest, hv, -⟩ :=
      value_cases hvalue
    · exact hv.elim
    · cases hv
    · cases hv
      cases hdepth
      unfold listOf
      simp only [hrest]
      exact h.2 hws
    · cases hv

theorem readAll_eq_ok_iff {α : Type} {reader : Cursor → Result α} {s : String} {v : α} :
    readAll reader s = .ok v ↔ ∃ cur, reader (.ofString s) = .ok (v, cur) ∧ cur.skip.rest = [] := by
  unfold readAll
  rw [Except.bind_eq_ok_iff]
  constructor
  · rintro ⟨⟨w, cur⟩, hw, h⟩
    dsimp only at h
    split at h
    · rename_i hrest
      cases h
      exact ⟨cur, hw, hrest⟩
    · cases h
  · rintro ⟨cur, hv, hrest⟩
    refine ⟨(v, cur), hv, ?_⟩
    simp only [hrest]
    rfl

/-- The texts read as lists of strings are those that stand for such a list. -/
theorem readStrings_eq_ok_iff {s : String} {ss : List String} :
    readStrings s = .ok ss ↔ Value.read s = .ok (.array (ss.map .string)) := by
  unfold readStrings Value.read
  rw [readAll_eq_ok_iff, readAll_eq_ok_iff]
  exact exists_congr fun cur => and_congr_left' (listOf_eq_ok_iff items_text_eq_ok_iff)

/-- The texts read as lists of values are those that stand for a list. -/
theorem readItems_eq_ok_iff {s : String} {vs : List Value} : readItems s = .ok vs ↔ Value.read s = .ok (.array vs) := by
  have hitems {cur next : Cursor} {vs : List Value} : items (value (nestingLimit - 1)) cur = .ok (vs, next) ↔
      items (value (nestingLimit - 1)) cur = .ok (vs.map id, next) := by rw [List.map_id]
  unfold readItems Value.read
  rw [readAll_eq_ok_iff, readAll_eq_ok_iff]
  refine exists_congr fun cur => and_congr_left' ?_
  rw [listOf_eq_ok_iff hitems, List.map_id]
  rfl

/-! ### Fields -/

theorem mem_setField {name : String} {v : Value} {fs : List (String × Value)} {p : String × Value}
    (h : p ∈ setField name v fs) : p.2 = v ∨ p ∈ fs := by
  induction fs with
  | nil => simp_all [setField]
  | cons q fs ih =>
    unfold setField at h
    split at h
    · rcases List.mem_cons.1 h with rfl | h
      · exact .inl rfl
      · exact .inr h
    · split at h
      · rcases List.mem_cons.1 h with rfl | h
        · exact .inl rfl
        · exact .inr (.tail _ h)
      · rcases List.mem_cons.1 h with rfl | h
        · exact .inr (.head _)
        · exact (ih h).imp_right (.tail _)

/-- What holds of every value that is read holds of every field. -/
theorem of_mem_fieldsFrom {P : Value → Prop} {item : Cursor → Result Value}
    (hitem : ∀ {cur v next}, item cur = .ok (v, next) → P v) {fuel : Nat} {isFirst : Bool}
    {done fs : List (String × Value)} {cur next : Cursor} (hdone : ∀ p ∈ done, P p.2)
    (h : fieldsFrom item fuel isFirst done cur = .ok (fs, next)) : ∀ p ∈ fs, P p.2 := by
  induction fuel generalizing isFirst done cur with
  | zero => cases h
  | succ fuel ih =>
    unfold fieldsFrom at h
    dsimp only at h
    split at h
    · cases h
      exact hdone
    · split at h
      · cases h
      · rename_i name v after hfield
        refine ih (fun p hp => ?_) h
        rcases mem_setField hp with rfl | hp
        · -- The value of a field is what is left after its name and the colon.
          unfold field at hfield
          obtain ⟨c₁, -, hfield⟩ := Except.bind_eq_ok_iff.1 hfield
          obtain ⟨⟨name', c₂⟩, -, hfield⟩ := Except.bind_eq_ok_iff.1 hfield
          obtain ⟨c₃, -, hfield⟩ := Except.bind_eq_ok_iff.1 hfield
          obtain ⟨⟨w, c₄⟩, hw, hfield⟩ := Except.bind_eq_ok_iff.1 hfield
          cases hfield
          exact hitem hw
        · exact hdone p hp

theorem integer_le_of_value {depth : Nat} {start next : Cursor} {n : Int}
    (h : value depth start = .ok (.integer n, next)) : n ≤ Numeral.wordLimit := by
  obtain hv | ⟨t, rest, hv, -⟩ | ⟨_, vs, rest, hv, -⟩ | ⟨_, fs, rest, hv, -⟩ := value_cases h
  · exact hv
  · cases hv
  · cases hv
  · cases hv

/-- An integer in a field of an object that was read has at most 64 bits. -/
theorem integer_le_of_field {s name : String} {fs : List (String × Value)} {n : Int}
    (h : Value.read s = .ok (.object fs)) (hn : fs.lookup name = some (.integer n)) : n ≤ Numeral.wordLimit := by
  obtain ⟨cur, hread, -⟩ := readAll_eq_ok_iff.1 h
  obtain hv | ⟨t, rest, hv, -⟩ | ⟨_, vs, rest, hv, -⟩ | ⟨deeper, gs, rest, hv, -, -, hgs⟩ := value_cases hread
  · exact hv.elim
  · cases hv
  · cases hv
  · cases hv
    obtain ⟨before, after, rfl, -⟩ := List.lookup_eq_some_iff.1 hn
    have hall := of_mem_fieldsFrom (P := fun v => ∀ k, v = .integer k → k ≤ Numeral.wordLimit)
      (fun hitem k hk => integer_le_of_value (hk ▸ hitem)) (by simp) hgs
    exact hall (name, .integer n) (by simp) n rfl

theorem Value.field?_eq_some_iff {name : String} {v w : Value} :
    v.field? name = some w ↔ ∃ fs, v = .object fs ∧ fs.lookup name = some w := by
  constructor
  · intro h
    cases v with
    | object fs => exact ⟨fs, rfl, h⟩
    | _ => cases h
  · rintro ⟨fs, rfl, h⟩
    exact h

theorem Value.natural?_eq_some_iff {v : Value} {n : Nat} : v.natural? = some n ↔ v = .integer n := by
  constructor
  · intro h
    cases v with
    | integer k =>
      have hk : (if 0 ≤ k then some k.toNat else none) = some n := h
      split at hk
      · cases hk
        rw [Int.toNat_of_nonneg ‹_›]
      · cases hk
    | _ => cases h
  · rintro rfl
    show (if 0 ≤ (n : Int) then some (n : Int).toNat else none) = some n
    rw [if_pos (Int.natCast_nonneg n), Int.toNat_natCast]

end LineAtlas.Json
