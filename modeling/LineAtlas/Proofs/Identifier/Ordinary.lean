import LineAtlas.Identifier
import LineAtlas.Proofs.Text.Search
import Mathlib.Data.List.SplitBy

/-!
# Ordinary identifiers

An identifier that no rule is about is taken apart into its runs of dollar signs and of other characters, and each run of
dollar signs becomes a point.  The key facts: `joinParts` passes over a run at a time (`joinParts_plain`,
`joinParts_dollars`), so it is `pointed`; a word without points stands in front of the outcome only if it stood in front
before (`prefix_of_joinParts`), so the outcome is ordinary as well and a second conversion finds nothing to do.
-/

namespace LineAtlas.Identifier

/-- The words that mark an identifier. -/
def markers : List String := ["SETPROP_", "$$PROP_", "GLOBAL_", "$$ALIAS_"]

/-- An identifier without a mark in front that is not the marker of a prototype. -/
structure Ordinary (value : String) : Prop where
  unmarked : ∀ word ∈ markers, ¬ word.toList <+: value.toList
  ne_prototype : value ≠ prototypeMarker

/-- Whether both or none of two characters are dollar signs. -/
def alike (a b : Char) : Bool := decide (a = '$') == decide (b = '$')

/-- A text with one point in the place of each run of dollar signs. -/
def pointed (cs : List Char) : List Char := (cs.splitBy alike).flatMap fun run => if '$' ∈ run then ['.'] else run

variable {cs rest run word : List Char}

/-! ### Runs -/

private theorem joinParts_cons {c : Char} (hc : c ≠ '$') (rest : List Char) :
    joinParts (c :: rest) = c :: joinParts rest := by
  cases rest <;> simp [joinParts, hc]

theorem joinParts_plain (h : '$' ∉ run) (rest : List Char) : joinParts (run ++ rest) = run ++ joinParts rest := by
  induction run with
  | nil => rfl
  | cons c run ih =>
    simp only [List.mem_cons, not_or] at h
    rw [List.cons_append, joinParts_cons (Ne.symm h.1), ih h.2, List.cons_append]

theorem joinParts_dollars (n : Nat) (h : rest.head? ≠ some '$') :
    joinParts (List.replicate (n + 1) '$' ++ rest) = '.' :: joinParts rest := by
  induction n with
  | zero =>
    cases rest with
    | nil => rfl
    | cons c rest =>
      have hc : c ≠ '$' := by simpa using h
      simp [joinParts, hc]
  | succ n ih =>
    rw [List.replicate_succ, List.cons_append]
    rw [List.replicate_succ, List.cons_append] at ih ⊢
    rw [joinParts, if_pos rfl]
    exact ih

private theorem run_cases (hne : run ≠ []) (h : run.IsChain fun a b => alike a b = true) :
    (∃ n, run = List.replicate (n + 1) '$') ∨ '$' ∉ run := by
  induction run with
  | nil => exact absurd rfl hne
  | cons c run ih =>
    cases run with
    | nil =>
      by_cases hc : c = '$'
      · exact .inl ⟨0, by simp [hc]⟩
      · exact .inr (by simpa using Ne.symm hc)
    | cons d run =>
      rw [List.isChain_cons_cons] at h
      have hcd : c = '$' ↔ d = '$' := by simpa [alike] using h.1
      rcases ih (by simp) h.2 with ⟨n, hn⟩ | hrun
      · have hd : d = '$' := by simp [List.replicate_succ] at hn; exact hn.1
        exact .inl ⟨n + 1, by rw [hn, hcd.2 hd, ← List.replicate_succ]⟩
      · right
        simp only [List.mem_cons, not_or] at hrun ⊢
        exact ⟨fun hc => hrun.1 (hcd.1 hc.symm).symm, hrun⟩

/-- The runs are passed over one by one: one of dollar signs is followed by another character or by nothing. -/
private theorem joinParts_flatten {runs : List (List Char)} (hne : [] ∉ runs)
    (hrun : ∀ run ∈ runs, run.IsChain fun a b => alike a b = true)
    (hnext : runs.IsChain fun a b => ∃ ha hb, alike (a.getLast ha) (b.head hb) = false) :
    joinParts runs.flatten = runs.flatMap fun run => if '$' ∈ run then ['.'] else run := by
  induction runs with
  | nil => rfl
  | cons run runs ih =>
    simp only [List.mem_cons, not_or] at hne
    have ih' := ih hne.2 (fun r hr => hrun r (.tail _ hr)) hnext.tail
    rw [List.flatten_cons, List.flatMap_cons]
    rcases run_cases (Ne.symm hne.1) (hrun run (by simp)) with ⟨n, rfl⟩ | hplain
    · have hhead : runs.flatten.head? ≠ some '$' := by
        cases runs with
        | nil => simp
        | cons next runs =>
          rw [List.isChain_cons_cons] at hnext
          obtain ⟨⟨_, hb, hkind⟩, -⟩ := hnext
          have hfirst : next.head hb ≠ '$' := by simpa [alike] using hkind
          rw [List.flatten_cons, List.head?_append_of_ne_nil _ hb, List.head?_eq_some_head hb]
          simpa using hfirst
      rw [joinParts_dollars n hhead, ih']
      simp
    · rw [joinParts_plain hplain, ih', if_neg hplain]

theorem joinParts_eq_pointed (cs : List Char) : joinParts cs = pointed cs := by
  have h := joinParts_flatten (List.nil_notMem_splitBy alike cs) (fun _ => List.isChain_of_mem_splitBy)
    (List.isChain_getLast_head_splitBy alike cs)
  rwa [List.flatten_splitBy] at h

/-! ### A second conversion -/

theorem dollar_notMem_joinParts (cs : List Char) : '$' ∉ joinParts cs := by
  rw [joinParts_eq_pointed, pointed, List.mem_flatMap]
  rintro ⟨run, -, hmem⟩
  split at hmem
  · simp at hmem
  · contradiction

theorem head?_joinParts_dollar (rest : List Char) : (joinParts ('$' :: rest)).head? = some '.' := by
  induction rest with
  | nil => rfl
  | cons c rest ih =>
    by_cases hc : c = '$'
    · subst hc
      exact ih
    · simp [joinParts, hc]

/-- What stands in front of the outcome and has no point stood in front before. -/
theorem prefix_of_joinParts (hword : '.' ∉ word) (h : word <+: joinParts cs) : word <+: cs := by
  induction cs generalizing word with
  | nil => exact h
  | cons c cs ih =>
    cases word with
    | nil => exact List.nil_prefix
    | cons w word =>
      by_cases hc : c = '$'
      · subst hc
        obtain ⟨rest, hrest⟩ := h
        have hhead := head?_joinParts_dollar cs
        rw [← hrest] at hhead
        simp at hhead
        simp [hhead] at hword
      · rw [joinParts_cons hc, List.cons_prefix_cons] at h
        simp only [List.mem_cons, not_or] at hword
        rw [List.cons_prefix_cons]
        exact ⟨h.1, ih hword.2 h.2⟩

theorem joinParts_eq_nil_iff : joinParts cs = [] ↔ cs = [] := by
  constructor
  · intro h
    cases cs with
    | nil => rfl
    | cons c cs =>
      by_cases hc : c = '$'
      · have hhead := head?_joinParts_dollar cs
        rw [← hc, h] at hhead
        simp at hhead
      · simp [joinParts, hc] at h
  · rintro rfl
    rfl

theorem eq_of_joinParts_eq (hpoint : '.' ∉ word) (hdollar : '$' ∉ word) (h : joinParts cs = word) : cs = word := by
  have hprefix : word <+: joinParts cs := ⟨[], by simp [h]⟩
  obtain ⟨rest, rfl⟩ := prefix_of_joinParts hpoint hprefix
  rw [joinParts_plain hdollar, List.append_right_eq_self, joinParts_eq_nil_iff] at h
  rw [h, List.append_nil]

theorem convert_of_ordinary {value : String} (h : Ordinary value) (asKey : Bool) :
    convert value asKey = ⟨String.ofList (joinParts value.toList), .plain⟩ := by
  have hafter : ∀ word ∈ markers, after? word value = none := by
    intro word hword
    rw [after?, Text.after?_eq_none_iff.2 (h.unmarked word hword), Option.map_none]
  unfold convert
  rw [hafter "SETPROP_" (by decide), hafter "$$PROP_" (by decide), hafter "GLOBAL_" (by decide),
    hafter "$$ALIAS_" (by decide), if_neg h.ne_prototype]

theorem ordinary_joinParts {value : String} (h : Ordinary value) :
    Ordinary (String.ofList (joinParts value.toList)) where
  unmarked word hword hprefix := by
    rw [String.toList_ofList] at hprefix
    have hpoint : ∀ word ∈ markers, '.' ∉ word.toList := by decide
    exact h.unmarked word hword (prefix_of_joinParts (hpoint word hword) hprefix)
  ne_prototype heq := by
    have hlist := congrArg String.toList heq
    rw [String.toList_ofList] at hlist
    exact h.ne_prototype (String.toList_inj.1 (eq_of_joinParts_eq (by decide) (by decide) hlist))

/-- An ordinary identifier is shown plain, with one point in the place of each run of dollar signs.  No dollar sign is
left, no rule begins to apply, and converting the outcome again, as a key or not, changes nothing. -/
theorem ordinary_converted_once {value : String} (h : Ordinary value) (asKey : Bool) :
    convert value asKey = ⟨String.ofList (pointed value.toList), .plain⟩ ∧
    '$' ∉ (convert value asKey).value.toList ∧ Ordinary (convert value asKey).value ∧
    ∀ again, convert (convert value asKey).value again = convert value asKey := by
  rw [convert_of_ordinary h]
  refine ⟨by rw [joinParts_eq_pointed], ?_, ordinary_joinParts h, fun again => ?_⟩
  · rw [String.toList_ofList]
    exact dollar_notMem_joinParts _
  · -- No dollar sign is left, so nothing is joined the second time.
    have hjoined : joinParts (joinParts value.toList) = joinParts value.toList := by
      simpa [joinParts] using joinParts_plain (dollar_notMem_joinParts value.toList) []
    rw [convert_of_ordinary (ordinary_joinParts h), String.toList_ofList, hjoined]

/-- A mark that only a dollar sign keeps from the front, another in the middle, and points beside dollar signs. -/
theorem ordinary_converted_once_sample :
    Ordinary "$SETPROP_$$PROP_a..$$$b" ∧
    convert "$SETPROP_$$PROP_a..$$$b" true = ⟨".SETPROP_.PROP_a...b", .plain⟩ ∧
    convert ".SETPROP_.PROP_a...b" false = ⟨".SETPROP_.PROP_a...b", .plain⟩ := by
  have hordinary : Ordinary "$SETPROP_$$PROP_a..$$$b" := ⟨by decide, by decide⟩
  obtain ⟨hconvert, -, -, hagain⟩ := ordinary_converted_once hordinary true
  have hpointed : String.ofList (pointed "$SETPROP_$$PROP_a..$$$b".toList) = ".SETPROP_.PROP_a...b" := by decide
  rw [hpointed] at hconvert
  have hsecond := hagain false
  rw [hconvert] at hsecond
  exact ⟨hordinary, hconvert, hsecond⟩

end LineAtlas.Identifier
