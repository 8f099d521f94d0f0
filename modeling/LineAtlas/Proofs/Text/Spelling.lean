import LineAtlas.Proofs.Text.Words

/-!
# Written words

A word can be written as it is, if it holds no blanks and none of the characters that mean something to the splitter,
and otherwise between quotes: between single ones with each single quote taken out of them, or between double ones with
an escape before each character that double quotes let be escaped.  A line is written from its words with separators
around them, at least one between two words.

The key fact: however the words of a line are written, the trimmed line has these words (`split_written`).
-/

namespace LineAtlas.Words

open Text (isBlank)

variable {word text rest : List Char}

/-- A character that stands for itself anywhere in a command. -/
def isPlain (c : Char) : Bool := !isBlank c && c ≠ '#' && c ≠ '"' && c ≠ '\'' && c ≠ '\\'

/-- A word between single quotes; a single quote leaves them, is escaped, and enters them again. -/
def singleQuoted (word : List Char) : List Char :=
  '\'' :: (word.flatMap (fun c => if c = '\'' then ['\'', '\\', '\'', '\''] else [c]) ++ ['\''])

/-- A word between double quotes. -/
def doubleQuoted (word : List Char) : List Char :=
  '"' :: (word.flatMap (fun c => if isKept c then ['\\', c] else [c]) ++ ['"'])

/-- The ways to write a word. -/
inductive Spells : List Char → List Char → Prop where
  | plain {word : List Char} : word ≠ [] → (∀ c ∈ word, isPlain c = true) → Spells word word
  | single (word : List Char) : Spells (singleQuoted word) word
  | double (word : List Char) : Spells (doubleQuoted word) word

/-- The ways to write some words one behind the other. -/
inductive Joined : List String → List Char → Prop where
  | last {word : String} {text : List Char} : Spells text word.toList → Joined [word] text
  | cons {word : String} {text gap rest : List Char} {words : List String} :
      Spells text word.toList → gap ≠ [] → (∀ c ∈ gap, isSeparator c = true) → Joined words rest →
        Joined (word :: words) (text ++ (gap ++ rest))

/-- A line in which some words are written, with separators around them. -/
def Written (words : List String) (line : String) : Prop :=
  ∃ lead text trail, (∀ c ∈ lead, isSeparator c = true) ∧ (∀ c ∈ trail, isSeparator c = true) ∧ Joined words text ∧
    line.toList = lead ++ (text ++ trail)

/-! ### One word -/

theorem isPlain_iff {c : Char} :
    isPlain c = true ↔ isBlank c = false ∧ c ≠ '#' ∧ c ≠ '"' ∧ c ≠ '\'' ∧ c ≠ '\\' := by
  simp [isPlain, and_assoc]

theorem not_isSeparator_of_isPlain {c : Char} (h : isPlain c = true) : ¬ isSeparator c = true := by
  intro hsep
  have hblank := (isPlain_iff.1 h).1
  rw [isBlank_of_isSeparator hsep] at hblank
  cases hblank

private theorem scan_plain (h : ∀ c ∈ word, isPlain c = true) (before rest : List Char) :
    scan .bare before (word ++ rest) = scan .bare (word.reverse ++ before) rest := by
  induction word generalizing before with
  | nil => rfl
  | cons c word ih =>
    obtain ⟨hc, hword⟩ := List.forall_mem_cons.1 h
    obtain ⟨-, -, hdouble, hsingle, hescape⟩ := isPlain_iff.1 hc
    have hin : inWord before c = (.bare, c :: before) := by
      rw [inWord, if_neg hdouble, if_neg hsingle, if_neg hescape]
    rw [List.cons_append, scan, if_neg (not_isSeparator_of_isPlain hc), hin, ih hword]
    rw [List.reverse_cons, List.append_assoc]
    rfl

private theorem scan_single (word before rest : List Char) :
    scan .single before (word.flatMap (fun c => if c = '\'' then ['\'', '\\', '\'', '\''] else [c]) ++ '\'' :: rest) =
      scan .bare (word.reverse ++ before) rest := by
  induction word generalizing before with
  | nil => simp [scan]
  | cons c word ih =>
    rw [List.flatMap_cons, List.append_assoc]
    by_cases hquote : c = '\''
    · subst hquote
      simp [scan, inWord, isSeparator, ih]
    · simp [scan, hquote, ih]

private theorem scan_double (word before rest : List Char) :
    scan .double before (word.flatMap (fun c => if isKept c then ['\\', c] else [c]) ++ '"' :: rest) =
      scan .bare (word.reverse ++ before) rest := by
  induction word generalizing before with
  | nil => simp [scan]
  | cons c word ih =>
    rw [List.flatMap_cons, List.append_assoc]
    by_cases hkept : isKept c = true
    · simp [scan, hkept, ih]
    · -- a character that is not escaped is neither a quote nor a backslash
      have hquote : c ≠ '"' := by
        rintro rfl
        exact hkept rfl
      have hescape : c ≠ '\\' := by
        rintro rfl
        exact hkept rfl
      simp [scan, hkept, hquote, hescape, ih]

/-- Behind a written word the splitter is in this word. -/
theorem scan_spells (h : Spells text word) (rest : List Char) :
    scan .gap [] (text ++ rest) = scan .bare word.reverse rest := by
  cases h with
  | single word =>
    have hscan := scan_single word [] rest
    rw [List.append_nil] at hscan
    simpa [singleQuoted, scan, isSeparator, inWord] using hscan
  | double word =>
    have hscan := scan_double word [] rest
    rw [List.append_nil] at hscan
    simpa [doubleQuoted, scan, isSeparator, inWord] using hscan
  | plain hne hplain =>
    obtain ⟨c, cs, rfl⟩ := List.exists_cons_of_ne_nil hne
    obtain ⟨hc, -⟩ := List.forall_mem_cons.1 hplain
    have hfirst : c ≠ '#' := (isPlain_iff.1 hc).2.1
    -- the first character opens the word, as it would go on with it
    have hopens : scan .gap [] (c :: (cs ++ rest)) = scan .bare [] (c :: (cs ++ rest)) := by
      have hsep : ¬ isSeparator c = true := not_isSeparator_of_isPlain hc
      rw [scan, if_neg hsep, if_neg hfirst, scan, if_neg hsep]
    have hscan := scan_plain hplain [] rest
    rw [List.append_nil] at hscan
    exact hopens.trans hscan

/-- A written word neither starts nor ends with a blank. -/
theorem isBlank_of_spells (h : Spells text word) :
    text ≠ [] ∧ (∀ c ∈ text.head?, isBlank c = false) ∧ ∀ c ∈ text.getLast?, isBlank c = false := by
  have quoted (q : Char) (hq : isBlank q = false) (cs : List Char) :
      q :: (cs ++ [q]) ≠ [] ∧ (∀ c ∈ (q :: (cs ++ [q])).head?, isBlank c = false) ∧
        ∀ c ∈ (q :: (cs ++ [q])).getLast?, isBlank c = false := by
    refine ⟨List.cons_ne_nil _ _, fun c hc => ?_, fun c hc => ?_⟩
    · rwa [← Option.some.inj hc]
    · rw [← List.cons_append, List.getLast?_concat] at hc
      rwa [← Option.some.inj hc]
  cases h with
  | single word => exact quoted '\'' rfl _
  | double word => exact quoted '"' rfl _
  | plain hne hplain =>
    exact ⟨hne, fun c hc => (isPlain_iff.1 (hplain c (List.mem_of_mem_head? hc))).1,
      fun c hc => (isPlain_iff.1 (hplain c (List.mem_of_mem_getLast? hc))).1⟩

/-! ### Several words -/

theorem scan_joined {words : List String} (h : Joined words text) :
    scan .gap [] text = some (words.map String.toList) := by
  induction h with
  | @last word text hword =>
    have hscan := scan_spells hword []
    rw [List.append_nil] at hscan
    simp [hscan, scan]
  | @cons word text gap rest words hword hne hgap _ ih =>
    obtain ⟨c, gap, rfl⟩ := List.exists_cons_of_ne_nil hne
    obtain ⟨hc, hgap⟩ := List.forall_mem_cons.1 hgap
    rw [scan_spells hword, List.cons_append, scan, if_pos hc, scan_separators hgap, ih]
    simp

theorem isBlank_of_joined {words : List String} (h : Joined words text) :
    text ≠ [] ∧ (∀ c ∈ text.head?, isBlank c = false) ∧ ∀ c ∈ text.getLast?, isBlank c = false := by
  induction h with
  | last hword => exact isBlank_of_spells hword
  | cons hword _ _ _ ih =>
    obtain ⟨hne, hfirst, -⟩ := isBlank_of_spells hword
    obtain ⟨hrest, -, hlast⟩ := ih
    refine ⟨List.append_ne_nil_of_left_ne_nil hne _, ?_, ?_⟩
    · rwa [List.head?_append_of_ne_nil _ hne]
    · rwa [List.getLast?_append_of_ne_nil _ (List.append_ne_nil_of_right_ne_nil _ hrest),
        List.getLast?_append_of_ne_nil _ hrest]

theorem trim_written {words : List String} {line : String} (h : Written words line) :
    Joined words (Text.trim line).toList := by
  obtain ⟨lead, text, trail, hlead, htrail, hjoined, hline⟩ := h
  obtain ⟨-, hfirst, hlast⟩ := isBlank_of_joined hjoined
  rw [Text.toList_trim, hline, Text.trimChars_blanks_append fun c hc => isBlank_of_isSeparator (hlead c hc),
    Text.trimChars_append_blanks fun c hc => isBlank_of_isSeparator (htrail c hc),
    Text.trimChars_eq_self hfirst hlast]
  exact hjoined

/-- However words are written, they come back. -/
theorem split_written {words : List String} {line : String} (h : Written words line) :
    split (Text.trim line) = some words := by
  unfold split
  rw [scan_joined (trim_written h)]
  simp

end LineAtlas.Words
