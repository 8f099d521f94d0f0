import LineAtlas.Toml.Reader
import LineAtlas.Toml.Writer

/-!
# Written TOML texts are read back

Each of the four forms has a reader, and what is written in a form is what its reader takes back: a text on one line
between double quotes (`readBasic_escapeOnLine`) or single quotes (`readLiteral_append`), a block in double quotes
(`readBlock_escapeInBlock`) or single quotes (`readLiteralBlock_append`).  In a block no three quotes may come in a row
before the end; then the end is found where it is, up to two quotes after the last other character
(`closeBlock?_append`).  The form of a text is one that can stand for it (`readText_writeChars`).
-/

namespace LineAtlas.Toml

variable {quote : Char} {cs rest : List Char}

/-! ### Escapes -/

theorem hexDigit?_upperHex : ∀ n < 16, Numeral.hexDigit? (upperHex n) = some n := by decide

theorem ofCode?_toNat (c : Char) : ofCode? c.toNat = some c := by
  have hvalid : c.toNat.isValidChar := c.valid
  rw [ofCode?, if_pos hvalid, Char.ofNat_toNat]

/-- The code of a control character is read as the character, by both readers that know escapes. -/
private theorem read_code {c : Char} (h : c.toNat < 256) (rest : List Char) :
    readBasic .escape ('u' :: '0' :: '0' :: upperHex (c.toNat / 16) :: upperHex (c.toNat % 16) :: rest) =
      push c (readBasic .plain rest) ∧
    readBlock .escape ('u' :: '0' :: '0' :: upperHex (c.toNat / 16) :: upperHex (c.toNat % 16) :: rest) =
      push c (readBlock .plain rest) := by
  have hhigh := hexDigit?_upperHex (c.toNat / 16) (by omega)
  have hlow := hexDigit?_upperHex (c.toNat % 16) (by omega)
  have hzero : Numeral.hexDigit? '0' = some 0 := rfl
  have hvalue : 16 * (16 * (16 * (16 * 0 + 0) + 0) + c.toNat / 16) + c.toNat % 16 = c.toNat := by omega
  constructor
  · show readBasic (.code 3 0) _ = _
    simp only [readBasic, hzero, hhigh, hlow, hvalue, ofCode?_toNat]
  · show readBlock (.code 3 0) _ = _
    simp only [readBlock, hzero, hhigh, hlow, hvalue, ofCode?_toNat]

/-- A character between double quotes is written as an escape that is read as it, or as itself. -/
theorem escapeChar_cases (c : Char) :
    (∃ tail, escapeChar c = '\\' :: tail ∧ ∀ rest,
      readBasic .escape (tail ++ rest) = push c (readBasic .plain rest) ∧
      readBlock .escape (tail ++ rest) = push c (readBlock .plain rest)) ∨
    (escapeChar c = [c] ∧ c ≠ '\\' ∧ c ≠ '\r' ∧ (c = '\n' ∨ isPlain c = true)) := by
  -- Five characters have a letter of their own, and each letter is read as its character.
  unfold escapeChar
  split
  · subst_vars
    exact .inl ⟨['\\'], rfl, fun _ => ⟨rfl, rfl⟩⟩
  split
  · subst_vars
    exact .inl ⟨['b'], rfl, fun _ => ⟨rfl, rfl⟩⟩
  split
  · subst_vars
    exact .inl ⟨['t'], rfl, fun _ => ⟨rfl, rfl⟩⟩
  split
  · subst_vars
    exact .inl ⟨['f'], rfl, fun _ => ⟨rfl, rfl⟩⟩
  split
  · subst_vars
    exact .inl ⟨['r'], rfl, fun _ => ⟨rfl, rfl⟩⟩
  split
  · rename_i hcontrol
    have hsmall : c.toNat < 256 := by
      simp only [isControl, Bool.or_eq_true, Bool.and_eq_true, decide_eq_true_eq] at hcontrol
      omega
    exact .inl ⟨_, rfl, read_code hsmall⟩
  · rename_i hslash _ htab _ hreturn hcontrol
    refine .inr ⟨rfl, hslash, hreturn, ?_⟩
    by_cases hline : c = '\n'
    · exact .inl hline
    · simp only [isControl, Bool.or_eq_true, Bool.and_eq_true, decide_eq_true_eq, hline, htab, ne_eq,
        not_false_eq_true, and_true] at hcontrol
      simp only [isPlain, Bool.or_eq_true, Bool.and_eq_true, decide_eq_true_eq]
      right
      omega

/-! ### Texts on one line -/

theorem readBasic_escapeOnLine (cs rest : List Char) :
    readBasic .plain (cs.flatMap escapeOnLine ++ '"' :: rest) = some (cs, rest) := by
  induction cs with
  | nil => rfl
  | cons c cs ih =>
    rw [List.flatMap_cons, List.append_assoc]
    have hpush : push c (readBasic .plain (cs.flatMap escapeOnLine ++ '"' :: rest)) = some (c :: cs, rest) := by
      rw [ih]
      rfl
    by_cases hquote : c = '"'
    · subst hquote
      exact hpush
    by_cases hline : c = '\n'
    · subst hline
      exact hpush
    rw [escapeOnLine, if_neg hquote, if_neg hline]
    obtain ⟨tail, htail, hread⟩ | ⟨hself, hslash, -, hplain⟩ := escapeChar_cases c
    · rw [htail, List.cons_append]
      exact (hread _).1.trans hpush
    · rw [hself, List.singleton_append, readBasic, if_neg hquote, if_neg hslash, if_pos (hplain.resolve_left hline)]
      exact hpush

private theorem head?_escapeOnLine (cs : List Char) : (cs.flatMap escapeOnLine).head? ≠ some '"' := by
  cases cs with
  | nil => nofun
  | cons c cs =>
    rw [List.flatMap_cons, escapeOnLine]
    split
    · nofun
    split
    · nofun
    · rename_i hquote _
      obtain ⟨tail, htail, -⟩ | ⟨hself, -⟩ := escapeChar_cases c
      · rw [htail]
        nofun
      · rw [hself]
        exact fun h => hquote (Option.some.inj h)

theorem readLiteral_append (hplain : ∀ c ∈ cs, isPlain c = true) (hquote : '\'' ∉ cs) (rest : List Char) :
    readLiteral (cs ++ '\'' :: rest) = some (cs, rest) := by
  induction cs with
  | nil => rfl
  | cons c cs ih =>
    rw [List.mem_cons, not_or] at hquote
    rw [List.cons_append, readLiteral, if_neg (Ne.symm hquote.1), if_pos (hplain c List.mem_cons_self),
      ih (fun d hd => hplain d (List.mem_cons_of_mem c hd)) hquote.2]
    rfl

/-! ### Ends of blocks -/

/-- The closing quotes right after a quote that they take with them. -/
theorem closeBlock?_end (h : rest.head? ≠ some quote) :
    closeBlock? quote (quote :: quote :: rest) = some ([], rest) := by
  cases rest with
  | nil => simp [closeBlock?]
  | cons d rest =>
    have hd : d ≠ quote := fun hd => h (hd ▸ rfl)
    cases rest <;> simp [closeBlock?, hd]

/-- Behind a quote, the end of a block is found where no more than one more quote stands before the closing ones. -/
theorem closeBlock?_append (hcs : ¬ [quote, quote] <+: cs) (hrest : rest.head? ≠ some quote) :
    closeBlock? quote (cs ++ quote :: quote :: quote :: rest) =
      if cs = [] ∨ cs = [quote] then some (quote :: cs, rest) else none := by
  match cs with
  | [] =>
    rw [if_pos (.inl rfl), List.nil_append]
    cases rest with
    | nil => simp [closeBlock?]
    | cons d rest =>
      have hd : d ≠ quote := fun hd => hrest (hd ▸ rfl)
      simp [closeBlock?, hd]
  | [a] =>
    by_cases ha : a = quote
    · subst ha
      simp [closeBlock?]
    · simp [closeBlock?, ha]
  | a :: b :: cs =>
    have hab : ¬ (a = quote ∧ b = quote) := by
      rintro ⟨ha, hb⟩
      exact hcs ⟨cs, by rw [ha, hb]; rfl⟩
    rw [if_neg (by simp)]
    simp [closeBlock?, hab]

/-! ### Blocks in single quotes -/

theorem readLiteralBlock_append (hplain : ∀ c ∈ cs, c = '\n' ∨ isPlain c = true)
    (hquotes : ¬ ['\'', '\'', '\''] <:+: cs) (hrest : rest.head? ≠ some '\'') :
    readLiteralBlock (cs ++ '\'' :: '\'' :: '\'' :: rest) = some (cs, rest) := by
  induction cs with
  | nil =>
    rw [List.nil_append, readLiteralBlock, if_pos rfl, closeBlock?_end hrest]
  | cons c cs ih =>
    have hpush : push c (readLiteralBlock (cs ++ '\'' :: '\'' :: '\'' :: rest)) = some (c :: cs, rest) := by
      rw [ih (fun d hd => hplain d (List.mem_cons_of_mem c hd)) fun h => hquotes (List.infix_cons h)]
      rfl
    rw [List.cons_append, readLiteralBlock]
    by_cases hc : c = '\''
    · subst hc
      have hcs : ¬ ['\'', '\''] <+: cs := fun h => hquotes ((List.prefix_cons_inj '\'').2 h).isInfix
      rw [if_pos rfl, closeBlock?_append hcs hrest]
      split
      · rename_i found hfound
        split at hfound
        · exact hfound.symm ▸ rfl
        · cases hfound
      · exact hpush
    · have hreturn : c ≠ '\r' := by
        rintro rfl
        exact absurd (hplain '\r' List.mem_cons_self) (by decide)
      rw [if_neg hc, if_neg hreturn, if_pos]
      · exact hpush
      · simpa using hplain c List.mem_cons_self

/-! ### Blocks in double quotes -/

/-- What is written for a character in a block begins with no carriage return, and with a quote only for a quote. -/
private theorem escapeInBlock_cons (n : Nat) (c : Char) (cs : List Char) :
    ∃ d tail, escapeInBlock n (c :: cs) = d :: tail ∧ d ≠ '\r' ∧ (d = '"' → c = '"') := by
  rw [escapeInBlock]
  split
  · rename_i hquote
    split
    · exact ⟨'\\', _, rfl, by decide, fun _ => hquote⟩
    · exact ⟨'"', _, rfl, by decide, fun _ => hquote⟩
  split
  · exact ⟨'\n', _, rfl, by decide, fun h => absurd h (by decide)⟩
  obtain ⟨tail, htail, -⟩ | ⟨hself, -, hreturn, -⟩ := escapeChar_cases c
  · exact ⟨'\\', tail ++ escapeInBlock 0 cs, by rw [htail, List.cons_append], by decide,
      fun h => absurd h (by decide)⟩
  · exact ⟨c, escapeInBlock 0 cs, by rw [hself, List.singleton_append], hreturn, id⟩

private theorem escapeInBlock_eq_nil {n : Nat} (h : escapeInBlock n cs = []) : cs = [] := by
  cases cs with
  | nil => rfl
  | cons c cs =>
    obtain ⟨d, tail, htail, -⟩ := escapeInBlock_cons n c cs
    rw [htail] at h
    cases h

/-- After two quotes in a row the next one is escaped. -/
private theorem head?_escapeInBlock_two (cs : List Char) : (escapeInBlock 2 cs).head? ≠ some '"' := by
  cases cs with
  | nil => nofun
  | cons c cs =>
    by_cases hc : c = '"'
    · subst hc
      simp [escapeInBlock]
    · obtain ⟨d, tail, htail, -, hd⟩ := escapeInBlock_cons 2 c cs
      rw [htail]
      exact fun h => hc (hd (Option.some.inj h))

/-- After a quote there are not two more, and what is written is no more than one quote only for itself. -/
private theorem escapeInBlock_succ {n : Nat} (hn : n < 2) (cs : List Char) :
    ¬ ['"', '"'] <+: escapeInBlock (n + 1) cs ∧
      (escapeInBlock (n + 1) cs = [] ∨ escapeInBlock (n + 1) cs = ['"'] → escapeInBlock (n + 1) cs = cs) := by
  cases cs with
  | nil => exact ⟨by simp [escapeInBlock], fun _ => rfl⟩
  | cons c cs =>
    by_cases hc : c = '"'
    · subst hc
      obtain rfl | rfl : n = 0 ∨ n = 1 := by omega
      · have hwritten : escapeInBlock 1 ('"' :: cs) = '"' :: escapeInBlock 2 cs := rfl
        rw [hwritten]
        refine ⟨fun h => ?_, fun h => ?_⟩
        · obtain ⟨tail, htail⟩ := (List.prefix_cons_inj '"').1 h
          exact head?_escapeInBlock_two cs (by rw [← htail]; rfl)
        · have hnil : escapeInBlock 2 cs = [] := by simpa using h
          rw [hnil, escapeInBlock_eq_nil hnil]
      · have hwritten : escapeInBlock 2 ('"' :: cs) = '\\' :: '"' :: escapeInBlock 0 cs := rfl
        rw [hwritten]
        exact ⟨by simp, by simp⟩
    · obtain ⟨d, tail, htail, -, hd⟩ := escapeInBlock_cons (n + 1) c cs
      rw [htail]
      exact ⟨fun h => hc (hd (List.cons_prefix_cons.1 h).1.symm), by simp [mt hd hc]⟩

/-- A quote in a block ends it or belongs to it. -/
private theorem readBlock_quote (cs : List Char) :
    readBlock .plain ('"' :: cs) = (closeBlock? '"' cs).or (push '"' (readBlock .plain cs)) := by
  cases hclose : closeBlock? '"' cs <;> simp [readBlock, hclose]

theorem readBlock_escapeInBlock (hrest : rest.head? ≠ some '"') (n : Nat) (cs : List Char) :
    readBlock .plain (escapeInBlock n cs ++ '"' :: '"' :: '"' :: rest) = some (cs, rest) := by
  induction cs generalizing n with
  | nil =>
    show readBlock .plain ('"' :: '"' :: '"' :: rest) = _
    rw [readBlock_quote, closeBlock?_end hrest]
    rfl
  | cons c cs ih =>
    have hpush (n : Nat) :
        push c (readBlock .plain (escapeInBlock n cs ++ '"' :: '"' :: '"' :: rest)) = some (c :: cs, rest) := by
      rw [ih n]
      rfl
    by_cases hquote : c = '"'
    · subst hquote
      rw [escapeInBlock, if_pos rfl]
      split
      · exact hpush 0
      · rename_i hn
        obtain ⟨hwritten, hfew⟩ := escapeInBlock_succ (Nat.lt_of_not_le hn) cs
        show readBlock .plain ('"' :: (escapeInBlock (n + 1) cs ++ '"' :: '"' :: '"' :: rest)) = _
        rw [readBlock_quote, closeBlock?_append hwritten hrest]
        split
        · rename_i hshort
          rw [hfew hshort]
          rfl
        · exact hpush (n + 1)
    by_cases hline : c = '\n'
    · subst hline
      exact hpush 0
    rw [escapeInBlock, if_neg hquote, if_neg hline, List.append_assoc]
    obtain ⟨tail, htail, hread⟩ | ⟨hself, hslash, hreturn, hplain⟩ := escapeChar_cases c
    · rw [htail, List.cons_append]
      exact (hread _).2.trans (hpush 0)
    · rw [hself, List.singleton_append]
      have hread (rest : List Char) : readBlock .plain (c :: rest) = push c (readBlock .plain rest) := by
        simp [readBlock, hreturn, hslash, hquote, hplain]
      exact (hread _).trans (hpush 0)

theorem head?_escapeInBlock (n : Nat) (cs : List Char) : (escapeInBlock n cs).head? ≠ some '\r' := by
  cases cs with
  | nil => nofun
  | cons c cs =>
    obtain ⟨d, tail, htail, hd, -⟩ := escapeInBlock_cons n c cs
    rw [htail]
    exact fun h => hd (Option.some.inj h)

/-! ### Forms -/

private theorem le_runs (quote : Char) (cs : List Char) :
    (∀ n, List.replicate n quote <+: cs → n ≤ (runs quote cs).1) ∧ (runs quote cs).1 ≤ (runs quote cs).2 := by
  induction cs with
  | nil => exact ⟨fun n h => by simpa [runs] using h.length_le, Nat.le_refl _⟩
  | cons c cs ih =>
    obtain ⟨hfront, hlongest⟩ := ih
    by_cases hc : c = quote
    · simp only [runs, if_pos hc]
      refine ⟨fun n h => ?_, Nat.le_max_right _ _⟩
      cases n with
      | zero => exact Nat.zero_le _
      | succ n =>
        rw [List.replicate_succ, List.cons_prefix_cons] at h
        exact Nat.succ_le_succ (hfront n h.2)
    · simp only [runs, if_neg hc]
      refine ⟨fun n h => ?_, Nat.zero_le _⟩
      cases n with
      | zero => exact Nat.le_refl _
      | succ n =>
        rw [List.replicate_succ, List.cons_prefix_cons] at h
        exact absurd h.1.symm hc

/-- No run is longer than the longest. -/
theorem le_longestRun {n : Nat} (h : List.replicate n quote <:+: cs) : n ≤ longestRun quote cs := by
  induction cs with
  | nil => simpa [longestRun, runs] using h.length_le
  | cons c cs ih =>
    obtain hprefix | hinfix := List.infix_cons_iff.1 h
    · obtain ⟨hfront, hlongest⟩ := le_runs quote (c :: cs)
      exact Nat.le_trans (hfront n hprefix) hlongest
    · refine Nat.le_trans (ih hinfix) ?_
      show (runs quote cs).2 ≤ (runs quote (c :: cs)).2
      rw [runs]
      dsimp only
      split
      · exact Nat.le_max_left _ _
      · exact Nat.le_refl _

private theorem isPlain_of_not_isControl {c : Char} (h : isControl c = false) : c = '\n' ∨ isPlain c = true := by
  by_cases hline : c = '\n'
  · exact .inl hline
  by_cases htab : c = '\t'
  · exact .inr (by rw [htab]; rfl)
  right
  simp only [isControl, Bool.or_eq_false_iff, Bool.and_eq_false_iff, decide_eq_false_iff_not, hline, htab, ne_eq,
    not_false_eq_true, not_true_eq_false, or_false] at h
  simp only [isPlain, Bool.or_eq_true, Bool.and_eq_true, decide_eq_true_eq]
  omega

/-- The forms without escapes are only chosen for texts that need none. -/
theorem formOf_cases (cs : List Char) :
    (formOf cs = .basic ∨ formOf cs = .block) ∨
    (formOf cs = .literal ∧ (∀ c ∈ cs, isPlain c = true) ∧ '\'' ∉ cs) ∨
    (formOf cs = .literalBlock ∧ (∀ c ∈ cs, c = '\n' ∨ isPlain c = true) ∧ ¬ ['\'', '\'', '\''] <:+: cs) := by
  have hplain (h : cs.any isControl = false) : ∀ c ∈ cs, c = '\n' ∨ isPlain c = true := by
    intro c hc
    exact isPlain_of_not_isControl (by simpa using List.any_eq_false.1 h c hc)
  unfold formOf
  dsimp only
  split
  · exact .inl (.inl rfl)
  split
  · rename_i h
    simp only [Bool.and_eq_true, Bool.not_eq_true', List.contains_eq_mem, decide_eq_false_iff_not] at h
    obtain ⟨⟨hcontrol, hquote⟩, hline⟩ := h
    exact .inr (.inl ⟨rfl, fun c hc => (hplain hcontrol c hc).resolve_left fun h => hline (h ▸ hc), hquote⟩)
  split
  · exact .inl (.inr rfl)
  split
  · rename_i h
    simp only [Bool.and_eq_true, Bool.not_eq_true', decide_eq_true_eq] at h
    refine .inr (.inr ⟨rfl, hplain h.1, fun hrun => ?_⟩)
    have hlong : 3 ≤ longestRun '\'' cs := le_longestRun hrun
    omega
  split
  · exact .inl (.inr rfl)
  · exact .inl (.inl rfl)

/-! ### Texts -/

private theorem readText_onLine (hcs : cs.head? ≠ some quote) (hrest : rest.head? ≠ some quote) :
    readText quote (cs ++ quote :: rest) = readLineText quote (cs ++ quote :: rest) := by
  cases cs with
  | nil =>
    cases rest with
    | nil => rfl
    | cons d rest =>
      have hd : d ≠ quote := fun hd => hrest (hd ▸ rfl)
      simp [readText, hd]
  | cons c cs =>
    have hc : c ≠ quote := fun hc => hcs (hc ▸ rfl)
    cases cs <;> simp [readText, hc]

/-- The line end that a block of several lines begins with is dropped, and no other. -/
private theorem dropLineEnd_content {content : List Char} (hreturn : content.head? ≠ some '\r')
    (hline : quote ≠ '\n') (hquote : quote ≠ '\r') (rest : List Char) :
    dropLineEnd ((if content.contains '\n' then '\n' :: content else content) ++ quote :: rest) =
      content ++ quote :: rest := by
  split
  · rfl
  · rename_i hcontent
    have hkeep (c : Char) (cs : List Char) (hc : c ≠ '\n') (hr : c ≠ '\r') : dropLineEnd (c :: cs) = c :: cs := by
      unfold dropLineEnd
      split <;> simp_all
    cases content with
    | nil => exact hkeep quote rest hline hquote
    | cons c content =>
      refine hkeep c _ (fun hc => hcontent ?_) fun hc => hreturn (hc ▸ rfl)
      simp [hc]

/-- A written text is read back, whatever follows it but a quote. -/
theorem readText_writeChars (cs rest : List Char) (hdouble : rest.head? ≠ some '"')
    (hsingle : rest.head? ≠ some '\'') :
    ∃ quote body, writeChars cs = quote :: body ∧ (quote = '"' ∨ quote = '\'') ∧
      readText quote (body ++ rest) = some (cs, rest) := by
  unfold writeChars
  obtain (hform | hform) | ⟨hform, hplain, hquote⟩ | ⟨hform, hplain, hquotes⟩ := formOf_cases cs
  · rw [hform]
    refine ⟨'"', cs.flatMap escapeOnLine ++ ['"'], rfl, .inl rfl, ?_⟩
    rw [List.append_assoc, List.singleton_append, readText_onLine (head?_escapeOnLine cs) hdouble]
    exact readBasic_escapeOnLine cs rest
  · rw [hform]
    refine ⟨'"', _, rfl, .inl rfl, ?_⟩
    show readBlock .plain (dropLineEnd (_ ++ ['"', '"', '"'] ++ rest)) = _
    rw [List.append_assoc]
    exact (congrArg _ (dropLineEnd_content (head?_escapeInBlock 0 cs) (by decide) (by decide) _)).trans
      (readBlock_escapeInBlock hdouble 0 cs)
  · rw [hform]
    refine ⟨'\'', cs ++ ['\''], rfl, .inr rfl, ?_⟩
    have hfirst : cs.head? ≠ some '\'' := fun h => hquote (List.mem_of_mem_head? h)
    rw [List.append_assoc, List.singleton_append, readText_onLine hfirst hsingle]
    exact readLiteral_append hplain hquote rest
  · rw [hform]
    refine ⟨'\'', _, rfl, .inr rfl, ?_⟩
    show readLiteralBlock (dropLineEnd (_ ++ ['\'', '\'', '\''] ++ rest)) = _
    rw [List.append_assoc]
    have hfirst : cs.head? ≠ some '\r' := by
      intro h
      exact absurd (hplain '\r' (List.mem_of_mem_head? h)) (by decide)
    exact (congrArg _ (dropLineEnd_content hfirst (by decide) (by decide) _)).trans
      (readLiteralBlock_append hplain hquotes hsingle)

/-- A written text is read as a value. -/
theorem readValue_writeChars (cs rest : List Char) (hdouble : rest.head? ≠ some '"')
    (hsingle : rest.head? ≠ some '\'') :
    readValue (writeChars cs ++ rest) = some (.text (String.ofList cs), rest) := by
  obtain ⟨quote, body, hwritten, hquote, hread⟩ := readText_writeChars cs rest hdouble hsingle
  have hopen : (decide (quote = '"') || decide (quote = '\'')) = true := by simpa using hquote
  rw [hwritten, List.cons_append, readValue, readValueIn.eq_def]
  dsimp only
  rw [if_pos hopen, hread]
  rfl

end LineAtlas.Toml
