import LineAtlas.Proofs.Json.Reading

/-!
# JSON however it is spelled

`Spells` is the grammar of JSON texts for values without fractions and exponents: blanks may stand around every token, a
character of a string may be written as itself, by a sign or by its code, and the fields of an object may come in any
order.  `Value.Fits` says which of these values can be kept: whole numbers of 64 bits, brackets that are not nested too
deep, and fields sorted by name.  Whatever spells a value that fits is read as that value (`read_spelled`), and what is
written without blanks is one of the spellings (`spells_compact`).
-/

namespace LineAtlas.Json

/-! ### The grammar -/

/-- A text between quotes that stands for a string. -/
def SpellsString (s : String) (cs : List Char) : Prop :=
  ∃ pieces, List.Forall₂ SpellsChar s.toList pieces ∧ cs = '"' :: (pieces.flatten ++ ['"'])

mutual

/-- A text without blanks at its ends that stands for a value. -/
inductive Spells : Value → List Char → Prop
  | null : Spells .null "null".toList
  | bool (b : Bool) : Spells (.bool b) (if b then "true" else "false").toList
  | integer (n : Int) : Spells (.integer n) (Numeral.ofInt n).toList
  | string {s : String} {cs : List Char} : SpellsString s cs → Spells (.string s) cs
  | array {vs : List Value} {texts : List (List Char)} {gap : List Char} : SpellsItems vs texts → Gap gap →
      Spells (.array vs) ('[' :: (gap ++ ([','].intercalate texts ++ [']'])))
  | object {fs listed : List (String × Value)} {texts : List (List Char)} {gap : List Char} :
      SpellsFields listed texts → listed.Perm fs → Gap gap →
      Spells (.object fs) ('\x7b' :: (gap ++ ([','].intercalate texts ++ ['\x7d'])))

/-- Texts that stand for the items of a list. -/
inductive SpellsItems : List Value → List (List Char) → Prop
  | nil : SpellsItems [] []
  | cons {v : Value} {vs : List Value} {body text : List Char} {texts : List (List Char)} : Spells v body →
      Spaced body text → SpellsItems vs texts → SpellsItems (v :: vs) (text :: texts)

/-- Texts that stand for the fields of an object, in the order in which they are listed. -/
inductive SpellsFields : List (String × Value) → List (List Char) → Prop
  | nil : SpellsFields [] []
  | cons {name : String} {v : Value} {fs : List (String × Value)} {quoted label body text : List Char}
      {texts : List (List Char)} : SpellsString name quoted → Spaced quoted label → Spells v body →
      Spaced body text → SpellsFields fs texts → SpellsFields ((name, v) :: fs) ((label ++ ':' :: text) :: texts)

end

/-- What can be kept of a value without parts, and of its items or its fields. -/
def Value.FitsWith (list : List Value → Prop) (object : List (String × Value) → Prop) : Value → Prop
  | .null | .bool _ | .string _ => True
  | .integer n => -(Numeral.signedRange : Int) ≤ n ∧ n ≤ Numeral.wordLimit
  | .real .. => False
  | .array vs => list vs
  | .object fs => object fs

/-- Values whose whole numbers have 64 bits, whose fields are sorted by name and whose brackets nest at most `depth`
deep, without real numbers. -/
def Value.Fits : Nat → Value → Prop
  | 0 => FitsWith (fun _ => False) fun _ => False
  | depth + 1 => FitsWith (fun vs => ∀ v ∈ vs, v.Fits depth)
      fun fs => fs.Pairwise (fun p q => p.1 < q.1) ∧ ∀ p ∈ fs, p.2.Fits depth

/-! ### Fields in any order -/

section Fields

variable {name : String} {v : Value} {fs listed : List (String × Value)}

theorem setField_perm (h : ∀ p ∈ fs, p.1 ≠ name) : (setField name v fs).Perm ((name, v) :: fs) := by
  induction fs with
  | nil => exact .refl _
  | cons p fs ih =>
    obtain ⟨other, w⟩ := p
    have hother : name ≠ other := (h (other, w) (by simp)).symm
    have hrest := ih fun q hq => h q (by simp [hq])
    rw [setField, if_neg hother]
    split
    · exact .refl _
    · exact (hrest.cons _).trans (List.Perm.swap _ _ _)

theorem setField_sorted (h : ∀ p ∈ fs, p.1 ≠ name) (hfs : fs.Pairwise fun p q => p.1 < q.1) :
    (setField name v fs).Pairwise fun p q => p.1 < q.1 := by
  induction fs with
  | nil => simp [setField]
  | cons p fs ih =>
    obtain ⟨other, w⟩ := p
    obtain ⟨hfirst, hrest⟩ := List.pairwise_cons.1 hfs
    have hother : name ≠ other := (h (other, w) (by simp)).symm
    have hnames : ∀ q ∈ fs, q.1 ≠ name := fun q hq => h q (by simp [hq])
    rw [setField, if_neg hother]
    split
    · rename_i hlt
      refine List.pairwise_cons.2 ⟨?_, hfs⟩
      intro q hq
      rcases List.mem_cons.1 hq with rfl | hq
      · exact hlt
      · exact String.lt_trans hlt (hfirst q hq)
    · rename_i hlt
      refine List.pairwise_cons.2 ⟨?_, ih hnames hrest⟩
      intro q hq
      rcases List.mem_cons.1 ((setField_perm hnames).mem_iff.1 hq) with rfl | hq
      · by_contra hnot
        exact hother (String.le_antisymm (String.not_lt.1 hnot) (String.not_lt.1 hlt))
      · exact hfirst q hq

/-- Fields of different names are gathered into one sorted list. -/
theorem gathered_perm (h : (listed ++ fs).Pairwise fun p q => p.1 ≠ q.1) (hfs : fs.Pairwise fun p q => p.1 < q.1) :
    (gathered listed fs).Perm (listed ++ fs) ∧ (gathered listed fs).Pairwise fun p q => p.1 < q.1 := by
  induction listed generalizing fs with
  | nil => exact ⟨.refl _, hfs⟩
  | cons p listed ih =>
    obtain ⟨hp, hrest⟩ := List.pairwise_cons.1 h
    have hnames : ∀ q ∈ fs, q.1 ≠ p.1 := fun q hq => (hp q (by simp [hq])).symm
    have hset := setField_perm (v := p.2) hnames
    have hmoved : (listed ++ setField p.1 p.2 fs).Perm (p :: (listed ++ fs)) :=
      (hset.append_left listed).trans List.perm_middle
    have hall := (hmoved.pairwise_iff fun hne => Ne.symm hne).2 h
    obtain ⟨hperm, hsorted⟩ := ih hall (setField_sorted hnames hfs)
    exact ⟨hperm.trans hmoved, hsorted⟩

/-- The order in which fields are listed does not matter. -/
theorem gathered_eq (hperm : listed.Perm fs) (hfs : fs.Pairwise fun p q => p.1 < q.1) : gathered listed [] = fs := by
  have hnames : (listed ++ []).Pairwise fun (p q : String × Value) => p.1 ≠ q.1 := by
    rw [List.append_nil, hperm.pairwise_iff fun hne => Ne.symm hne]
    refine hfs.imp ?_
    intro p q hlt heq
    rw [heq] at hlt
    exact String.lt_irrefl _ hlt
  obtain ⟨hgathered, hsorted⟩ := gathered_perm hnames .nil
  rw [List.append_nil] at hgathered
  refine (hgathered.trans hperm).eq_of_pairwise ?_ hsorted hfs
  intro p q _ _ hpq hqp
  exact absurd hpq (String.lt_asymm hqp)

end Fields

/-! ### Spelled values are read -/

section Reading

variable {depth : Nat} {vs : List Value} {fs listed : List (String × Value)} {texts : List (List Char)}

theorem fits_integer {n : Int} :
    (Value.integer n).Fits depth ↔ -(Numeral.signedRange : Int) ≤ n ∧ n ≤ Numeral.wordLimit := by
  cases depth <;> rfl

theorem fits_array :
    (Value.array vs).Fits depth ↔ ∃ deeper, depth = deeper + 1 ∧ ∀ v ∈ vs, v.Fits deeper := by
  cases depth with
  | zero => exact ⟨False.elim, nofun⟩
  | succ deeper => simp [Value.Fits, Value.FitsWith]

theorem fits_object : (Value.object fs).Fits depth ↔
    ∃ deeper, depth = deeper + 1 ∧ fs.Pairwise (fun p q => p.1 < q.1) ∧ ∀ p ∈ fs, p.2.Fits deeper := by
  cases depth with
  | zero => exact ⟨False.elim, nofun⟩
  | succ deeper => simp [Value.Fits, Value.FitsWith]

theorem fits_string (s : String) (depth : Nat) : (Value.string s).Fits depth := by
  cases depth <;> trivial

theorem fits_strings (names : List String) (depth : Nat) : (Value.array (names.map .string)).Fits (depth + 1) := by
  refine fits_array.2 ⟨depth, rfl, fun v hv => ?_⟩
  obtain ⟨name, -, rfl⟩ := List.mem_map.1 hv
  exact fits_string name depth

theorem SpellsItems.forall₂ {R : Value → List Char → Prop} (h : SpellsItems vs texts)
    (hR : ∀ v ∈ vs, ∀ body text, Spells v body → Spaced body text → R v text) : List.Forall₂ R vs texts := by
  induction vs generalizing texts with
  | nil =>
    cases h
    exact .nil
  | cons v vs ih =>
    cases h with
    | cons hbody htext hrest =>
      exact .cons (hR v (by simp) _ _ hbody htext) (ih hrest fun w hw => hR w (by simp [hw]))

theorem SpellsFields.forall₂ {R : String × Value → List Char → Prop} (h : SpellsFields listed texts)
    (hR : ∀ p ∈ listed, ∀ quoted label body text, SpellsString p.1 quoted → Spaced quoted label → Spells p.2 body →
      Spaced body text → R p (label ++ ':' :: text)) : List.Forall₂ R listed texts := by
  induction listed generalizing texts with
  | nil =>
    cases h
    exact .nil
  | cons p listed ih =>
    cases h with
    | cons hname hlabel hbody htext hrest =>
      exact .cons (hR _ (by simp) _ _ _ _ hname hlabel hbody htext) (ih hrest fun q hq => hR q (by simp [hq]))

theorem readsAs_ofInt {n : Int} (hlow : -(Numeral.signedRange : Int) ≤ n) (hhigh : n ≤ Numeral.wordLimit) :
    ReadsAs (value depth) (.integer n) (Numeral.ofInt n).toList := by
  rcases Int.lt_or_le n 0 with hneg | hpos
  · obtain ⟨k, rfl⟩ : ∃ k : Nat, n = -k := ⟨n.natAbs, by omega⟩
    rw [Numeral.toList_ofInt_neg (by omega)]
    exact readsAs_negative depth (by omega) (by omega)
  · obtain ⟨k, rfl⟩ : ∃ k : Nat, n = k := ⟨n.natAbs, by omega⟩
    rw [Numeral.toList_ofInt_natCast]
    exact readsAs_integer depth (by omega)

theorem readsField_spelled {p : String × Value} {quoted label body text : List Char} (hname : SpellsString p.1 quoted)
    (hlabel : Spaced quoted label) (hbody : ReadsAs (value depth) p.2 body) (htext : Spaced body text) :
    ReadsField (value depth) p (label ++ ':' :: text) := by
  obtain ⟨pieces, hpieces, rfl⟩ := hname
  obtain ⟨before, gap, hbefore, hgap, rfl⟩ := hlabel
  have hfield := readsField_pieces (value_skip depth) hbefore (hpieces.imp fun _ _ => SpellsChar.reads) hgap
    ⟨body, hbody, htext⟩
  simpa using hfield

/-- Whatever spells a value that fits is read as that value. -/
theorem readsAs_spelled {v : Value} {cs : List Char} (h : Spells v cs) (hfit : v.Fits depth) :
    ReadsAs (value depth) v cs := by
  induction depth using Nat.strongRecOn generalizing v cs with
  | ind depth ih =>
    cases h with
    | null => exact readsAs_null depth
    | bool b => exact readsAs_bool depth b
    | integer n =>
      obtain ⟨hlow, hhigh⟩ := fits_integer.1 hfit
      exact readsAs_ofInt hlow hhigh
    | string hs =>
      obtain ⟨pieces, hpieces, rfl⟩ := hs
      exact readsAs_pieces depth (hpieces.imp fun _ _ => SpellsChar.reads)
    | array hitems hgap =>
      obtain ⟨deeper, rfl, hvs⟩ := fits_array.1 hfit
      refine readsAs_array (hitems.forall₂ ?_) hgap
      intro v hv body text hbody htext
      exact ⟨body, ih deeper (Nat.lt_succ_self _) hbody (hvs v hv), htext⟩
    | object hfields hperm hgap =>
      obtain ⟨deeper, rfl, hsorted, hfs⟩ := fits_object.1 hfit
      rw [← gathered_eq hperm hsorted]
      refine readsAs_object (hfields.forall₂ ?_) hgap
      intro p hp quoted label body text hname hlabel hbody htext
      have hread := ih deeper (Nat.lt_succ_self _) hbody (hfs p (hperm.mem_iff.1 hp))
      exact readsField_spelled hname hlabel hread htext

/-- A text that spells a value that fits, with blanks around it, is read as that value. -/
theorem read_spelled {s : String} {v : Value} {body : List Char} (h : Spells v body) (hs : Spaced body s.toList)
    (hfit : v.Fits nestingLimit) : Value.read s = .ok v :=
  read_of_readsBetween ⟨body, readsAs_spelled h hfit, hs⟩

end Reading

/-! ### Written values are spelled -/

/-- The code of a control character. -/
private theorem hexCode_control {n : Nat} (h : n < 0x20) :
    HexCode n ['0', '0', hexDigit (n / 16), hexDigit (n % 16)] := by
  have hall : ∀ n < 0x20, Numeral.inBase? 16 ['0', '0', hexDigit (n / 16), hexDigit (n % 16)] = some n := by decide
  exact ⟨rfl, hall n h⟩

/-- A written character has its sign where it has one, and its code where it is another control character. -/
theorem spellsChar_escapeChar (c : Char) : SpellsChar c (escapeChar c) := by
  unfold escapeChar
  split
  · exact .sign (by simp [signs, *])
  split
  · exact .sign (by simp [signs, *])
  split
  · exact .sign (by simp [signs, *])
  split
  · exact .sign (by simp [signs, *])
  split
  · exact .sign (by simp [signs, *])
  split
  · exact .sign (by simp [signs, *])
  split
  · exact .sign (by simp [signs, *])
  split
  · rename_i hc
    exact .code (hexCode_control hc)
  · rename_i hquote hslash _ _ _ _ _ hcontrol
    exact .plain hquote hslash (Nat.not_lt.1 hcontrol)

theorem forall₂_escapeChar (cs : List Char) : List.Forall₂ SpellsChar cs (cs.map escapeChar) := by
  rw [List.forall₂_map_right_iff, List.forall₂_same]
  intro c _
  exact spellsChar_escapeChar c

theorem toList_quote (s : String) : (quote s).toList = '"' :: (escape s.toList ++ ['"']) := by
  rw [quote, String.toList_ofList, List.cons_append]

theorem spellsString_quote (s : String) : SpellsString s (quote s).toList := by
  refine ⟨_, forall₂_escapeChar s.toList, ?_⟩
  rw [toList_quote, escape, List.flatMap_def]

theorem Spaced.refl (body : List Char) : Spaced body body :=
  ⟨[], [], gap_nil, gap_nil, by simp⟩

theorem compactItems_eq_map (vs : List Value) : compactItems vs = vs.map Value.compact := by
  induction vs with
  | nil => rw [compactItems, List.map_nil]
  | cons v vs ih => rw [compactItems, ih, List.map_cons]

theorem toList_compact_array (vs : List Value) :
    (Value.array vs).compact.toList = '[' :: ([','].intercalate (vs.map (·.compact.toList)) ++ [']']) := by
  rw [Value.compact, compactItems_eq_map, String.toList_append, String.toList_append, String.toList_intercalate,
    List.map_map]
  rfl

theorem compactFields_eq_map (fs : List (String × Value)) :
    compactFields fs = fs.map fun p => quote p.1 ++ ":" ++ p.2.compact := by
  induction fs with
  | nil => rw [compactFields, List.map_nil]
  | cons p fs ih => rw [compactFields, ih, List.map_cons]

theorem toList_compact_object (fs : List (String × Value)) :
    (Value.object fs).compact.toList =
      '\x7b' :: ([','].intercalate (fs.map fun p => (quote p.1).toList ++ ':' :: p.2.compact.toList) ++ ['\x7d']) := by
  rw [Value.compact, compactFields_eq_map, String.toList_append, String.toList_append, String.toList_intercalate,
    List.map_map]
  simp [Function.comp_def]

theorem spellsItems_map {vs : List Value} {f : Value → List Char} (h : ∀ v ∈ vs, Spells v (f v)) :
    SpellsItems vs (vs.map f) := by
  induction vs with
  | nil => exact .nil
  | cons v vs ih => exact .cons (h v (by simp)) (.refl _) (ih fun w hw => h w (by simp [hw]))

theorem spellsFields_map {fs : List (String × Value)} {f : Value → List Char} (h : ∀ p ∈ fs, Spells p.2 (f p.2)) :
    SpellsFields fs (fs.map fun p => (quote p.1).toList ++ ':' :: f p.2) := by
  induction fs with
  | nil => exact .nil
  | cons p fs ih =>
    exact .cons (spellsString_quote p.1) (.refl _) (h p (by simp)) (.refl _) (ih fun q hq => h q (by simp [hq]))

/-- A value that fits is spelled by what is written without blanks. -/
theorem spells_compact {depth : Nat} {v : Value} (h : v.Fits depth) : Spells v v.compact.toList := by
  induction depth using Nat.strongRecOn generalizing v with
  | ind depth ih =>
    cases v with
    | null =>
      rw [Value.compact]
      exact .null
    | bool b =>
      rw [Value.compact]
      exact .bool b
    | integer n =>
      rw [Value.compact]
      exact .integer n
    | real negative size => cases depth <;> exact h.elim
    | string s =>
      rw [Value.compact]
      exact .string (spellsString_quote s)
    | array vs =>
      obtain ⟨deeper, rfl, hvs⟩ := fits_array.1 h
      have hitems := spellsItems_map fun v hv => ih deeper (Nat.lt_succ_self _) (hvs v hv)
      rw [toList_compact_array]
      exact Spells.array hitems gap_nil
    | object fs =>
      obtain ⟨deeper, rfl, -, hfs⟩ := fits_object.1 h
      have hfields := spellsFields_map (f := fun v => v.compact.toList) fun p hp =>
        ih deeper (Nat.lt_succ_self _) (hfs p hp)
      rw [toList_compact_object]
      exact Spells.object hfields (.refl fs) gap_nil

/-- What is written without blanks is read back. -/
theorem read_compact {v : Value} (h : v.Fits nestingLimit) : Value.read v.compact = .ok v :=
  read_spelled (spells_compact h) (.refl _) h

end LineAtlas.Json
