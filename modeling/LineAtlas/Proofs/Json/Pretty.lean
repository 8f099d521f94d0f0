import LineAtlas.Proofs.Json.Spelled

/-!
# JSON over several lines

A value over several lines has the tokens of the one without blanks: between its brackets are its parts with commas
between them and blanks around them (`exists_toList_enclose`), so that it is one of the spellings.  `PrintsAs` allows for
fields that are listed in another order than by name, as they are in what is only printed.

The key facts: what is printed for a value that fits stands for this value (`printsAs_of_fits`) and is read back as it
(`read_pretty`); where fields are listed in another order, it is read back with the fields sorted (`PrintsAs.read`).
-/

namespace LineAtlas.Json

/-- What is printed for the first value, at any depth, stands for the second. -/
def PrintsAs (v w : Value) : Prop := ∀ depth, Spells w (v.prettyAt depth).toList

/-! ### Parts on lines of their own -/

theorem gap_newline (depth : Nat) : Gap (newline depth).toList := by
  intro c hc
  rw [newline, String.toList_ofList] at hc
  rcases List.mem_cons.1 hc with rfl | hc
  · rfl
  · rw [List.eq_of_mem_replicate hc]
    rfl

/-- Blanks before every part and behind the last one belong to the parts. -/
private theorem exists_intercalate {start stop : List Char} (hstart : Gap start) (hstop : Gap stop) (part : List Char)
    (parts : List (List Char)) :
    ∃ texts, List.Forall₂ Spaced (part :: parts) texts ∧
      start ++ ((',' :: start).intercalate (part :: parts) ++ stop) = [','].intercalate texts := by
  induction parts generalizing part with
  | nil => exact ⟨[start ++ (part ++ stop)], .cons ⟨start, stop, hstart, hstop, rfl⟩ .nil, by simp⟩
  | cons next parts ih =>
    obtain ⟨texts, htexts, heq⟩ := ih next
    cases htexts with
    | @cons _ text _ texts hnext hrest =>
      refine ⟨(start ++ part) :: text :: texts, .cons ⟨start, [], hstart, gap_nil, by simp⟩ (.cons hnext hrest), ?_⟩
      rw [List.intercalate_cons_cons, List.intercalate_cons_cons, ← heq]
      simp

/-- Between brackets stand the parts with commas between them and blanks around them. -/
theorem exists_toList_enclose (opening closing : String) (depth : Nat) (parts : List String) :
    ∃ texts, List.Forall₂ (fun part text => Spaced part.toList text) parts texts ∧
      (enclose opening closing depth parts).toList = opening.toList ++ ([','].intercalate texts ++ closing.toList) := by
  cases parts with
  | nil => exact ⟨[], .nil, by simp [enclose]⟩
  | cons part parts =>
    obtain ⟨texts, htexts, heq⟩ := exists_intercalate (gap_newline (depth + 1)) (gap_newline depth) part.toList
      (parts.map String.toList)
    refine ⟨texts, ?_, ?_⟩
    · rw [← List.map_cons (f := String.toList), List.forall₂_map_left_iff] at htexts
      exact htexts
    · rw [← heq, enclose, if_neg (by simp)]
      simp [String.toList_intercalate]

theorem prettyItems_eq_map (depth : Nat) (vs : List Value) : prettyItems depth vs = vs.map (·.prettyAt depth) := by
  induction vs with
  | nil => rw [prettyItems, List.map_nil]
  | cons v vs ih => rw [prettyItems, ih, List.map_cons]

theorem prettyFields_eq_map (depth : Nat) (fs : List (String × Value)) :
    prettyFields depth fs = fs.map fun p => quote p.1 ++ ": " ++ p.2.prettyAt depth := by
  induction fs with
  | nil => rw [prettyFields, List.map_nil]
  | cons p fs ih => rw [prettyFields, ih, List.map_cons]

/-! ### Printed values are spelled -/

section Printed

variable {vs ws : List Value} {fs listed gs : List (String × Value)} {depth : Nat}

theorem printsAs_null : PrintsAs .null .null := by
  intro depth
  rw [Value.prettyAt]
  exact .null

theorem printsAs_bool (b : Bool) : PrintsAs (.bool b) (.bool b) := by
  intro depth
  rw [Value.prettyAt]
  exact .bool b

theorem printsAs_integer (n : Int) : PrintsAs (.integer n) (.integer n) := by
  intro depth
  rw [Value.prettyAt]
  exact .integer n

theorem printsAs_string (s : String) : PrintsAs (.string s) (.string s) := by
  intro depth
  rw [Value.prettyAt]
  exact .string (spellsString_quote s)

theorem spellsItems_of_printsAs {texts : List (List Char)} (h : List.Forall₂ PrintsAs vs ws)
    (htexts : List.Forall₂ (fun part text => Spaced part.toList text) (prettyItems depth vs) texts) :
    SpellsItems ws texts := by
  rw [prettyItems_eq_map, List.forall₂_map_left_iff] at htexts
  induction h generalizing texts with
  | nil =>
    cases htexts
    exact .nil
  | cons hv _ ih =>
    cases htexts with
    | cons htext hrest => exact .cons (hv depth) htext (ih hrest)

theorem printsAs_array (h : List.Forall₂ PrintsAs vs ws) : PrintsAs (.array vs) (.array ws) := by
  intro depth
  obtain ⟨texts, htexts, heq⟩ := exists_toList_enclose "[" "]" depth (prettyItems (depth + 1) vs)
  rw [Value.prettyAt, heq]
  exact Spells.array (spellsItems_of_printsAs h htexts) gap_nil

theorem spellsFields_of_printsAs {texts : List (List Char)}
    (h : List.Forall₂ (fun p q => p.1 = q.1 ∧ PrintsAs p.2 q.2) fs listed)
    (htexts : List.Forall₂ (fun part text => Spaced part.toList text) (prettyFields depth fs) texts) :
    SpellsFields listed texts := by
  rw [prettyFields_eq_map, List.forall₂_map_left_iff] at htexts
  induction h generalizing texts with
  | nil =>
    cases htexts
    exact .nil
  | @cons p q _ _ hp _ ih =>
    obtain ⟨name, v⟩ := q
    obtain ⟨rfl, hv⟩ := hp
    cases htexts with
    | cons htext hrest =>
      obtain ⟨before, after, hbefore, hafter, rfl⟩ := htext
      have hblank : Gap [' '] := by simp [Gap, isGap]
      have hfield := SpellsFields.cons (spellsString_quote p.1) ⟨before, [], hbefore, gap_nil, rfl⟩ (hv depth)
        ⟨[' '], after, hblank, hafter, rfl⟩ (ih hrest)
      simpa using hfield

/-- Fields may be listed in another order than they are kept in. -/
theorem printsAs_object (h : List.Forall₂ (fun p q => p.1 = q.1 ∧ PrintsAs p.2 q.2) fs listed)
    (hperm : listed.Perm gs) : PrintsAs (.object fs) (.object gs) := by
  intro depth
  obtain ⟨texts, htexts, heq⟩ := exists_toList_enclose "\x7b" "\x7d" depth (prettyFields (depth + 1) fs)
  rw [Value.prettyAt, heq]
  exact Spells.object (spellsFields_of_printsAs h htexts) hperm gap_nil

/-- A value that fits is spelled by what is printed for it. -/
theorem printsAs_of_fits {v : Value} (h : v.Fits depth) : PrintsAs v v := by
  induction depth using Nat.strongRecOn generalizing v with
  | ind depth ih =>
    cases v with
    | null => exact printsAs_null
    | bool b => exact printsAs_bool b
    | integer n => exact printsAs_integer n
    | real negative size => cases depth <;> exact h.elim
    | string s => exact printsAs_string s
    | array vs =>
      obtain ⟨deeper, rfl, hvs⟩ := fits_array.1 h
      exact printsAs_array (List.forall₂_same.2 fun v hv => ih deeper (Nat.lt_succ_self _) (hvs v hv))
    | object fs =>
      obtain ⟨deeper, rfl, -, hfs⟩ := fits_object.1 h
      exact printsAs_object (List.forall₂_same.2 fun p hp => ⟨rfl, ih deeper (Nat.lt_succ_self _) (hfs p hp)⟩) (.refl fs)

/-- What is printed is read back as the value that it stands for. -/
theorem PrintsAs.read {v w : Value} (h : PrintsAs v w) (hfit : w.Fits nestingLimit) : Value.read v.pretty = .ok w :=
  read_spelled (h 0) (.refl _) hfit

/-- What is printed for a value that fits is read back. -/
theorem read_pretty {v : Value} (h : v.Fits nestingLimit) : Value.read v.pretty = .ok v :=
  (printsAs_of_fits h).read h

end Printed

end LineAtlas.Json
