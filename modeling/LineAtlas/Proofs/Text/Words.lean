import LineAtlas.Proofs.Text.Pieces
import LineAtlas.Proofs.Text.Search
import LineAtlas.Text.Words

/-!
# Words and the blanks around a command

`Mode.after` is the mode in which a text leaves the splitter, and what comes next depends on nothing else of the text
than this mode and the word that is open there (`exists_scan_append`).  What an open word becomes does not depend on how
it began (`scan_word`).

Blanks of Unicode are more than separators: a blank that is none is part of a word, and any blank can be escaped.  The
key facts: behind a text blanks change no words exactly where they are `Harmless` in the mode there
(`scan_blanks_iff`), in front of it each that is no separator makes the words longer (`exists_size_blanks`).  So
the words of a trimmed text are those of the whole text in cases that can be told from these modes
(`scan_trimmed_iff`).
-/

namespace LineAtlas.Words

open Text (isBlank)

variable {m : Mode} {c : Char} {cs rest : List Char}

/-! ### Modes -/

/-- The mode after a character. -/
def Mode.next : Mode → Char → Mode
  | .gap, c => if isSeparator c then .gap else if c = '#' then .comment else (inWord [] c).1
  | .comment, c => if c = '\n' then .gap else .comment
  | .bare, c => if isSeparator c then .gap else (inWord [] c).1
  | .bareEscape, _ => .bare
  | .single, c => if c = '\'' then .bare else .single
  | .double, c => if c = '"' then .bare else if c = '\\' then .doubleEscape else .double
  | .doubleEscape, _ => .double

/-- The mode after a text. -/
def Mode.after (m : Mode) (cs : List Char) : Mode := cs.foldl Mode.next m

/-- Whether a command must not end in a mode. -/
def Mode.isOpen : Mode → Bool
  | .gap | .comment | .bare => false
  | .bareEscape | .single | .double | .doubleEscape => true

/-- Whether a word is open in a mode. -/
def Mode.hasWord : Mode → Bool
  | .gap | .comment => false
  | _ => true

theorem inWord_eq (word : List Char) (c : Char) :
    inWord word c = ((inWord [] c).1, (inWord [] c).2 ++ word) := by
  unfold inWord
  split_ifs <;> rfl

theorem hasWord_inWord (c : Char) : (inWord [] c).1.hasWord = true := by
  unfold inWord
  split_ifs <;> rfl

theorem isBlank_of_isSeparator (h : isSeparator c = true) : isBlank c = true := by
  simp only [isSeparator, Bool.or_eq_true, decide_eq_true_eq] at h
  rcases h with (rfl | rfl) | rfl <;> rfl

/-- A blank that is no separator is a character of a word like any other. -/
theorem inWord_of_isBlank (h : isBlank c = true) (word : List Char) : inWord word c = (.bare, c :: word) := by
  unfold inWord
  rw [if_neg, if_neg, if_neg]
  all_goals
    rintro rfl
    exact absurd h (by decide)

theorem ne_of_isBlank {d : Char} (h : isBlank c = true) (hd : isBlank d = false) : c ≠ d := by
  rintro rfl
  exact Bool.false_ne_true (hd.symm.trans h)

/-! ### Texts one behind the other -/

theorem scan_nil_eq_none_iff (m : Mode) (word : List Char) : scan m word [] = none ↔ m.isOpen = true := by
  cases m <;> simp [scan, Mode.isOpen]

/-- In a word, a character that does not end it makes the splitter go on with the word, which may be longer. -/
private theorem exists_scan_hasWord (hm : m.hasWord = true) (hc : ¬ (m = .bare ∧ isSeparator c = true)) :
    (m.next c).hasWord = true ∧
      ∃ more, ∀ word rest, scan m word (c :: rest) = scan (m.next c) (more ++ word) rest := by
  cases m with
  | gap => cases hm
  | comment => cases hm
  | bare =>
    have hsep : ¬ isSeparator c = true := fun h => hc ⟨rfl, h⟩
    refine ⟨by simpa [Mode.next, hsep] using hasWord_inWord c, (inWord [] c).2, fun word rest => ?_⟩
    simp only [scan, Mode.next, if_neg hsep, inWord_eq word]
  | bareEscape =>
    refine ⟨rfl, if c = '\n' then [] else [c], fun word rest => ?_⟩
    by_cases hfeed : c = '\n'
    · simp only [scan, Mode.next, if_pos hfeed, List.nil_append]
    · simp only [scan, Mode.next, if_neg hfeed, List.singleton_append]
  | single =>
    by_cases hquote : c = '\''
    · exact ⟨by simp only [Mode.next, if_pos hquote, Mode.hasWord], [], fun word rest => by
        simp only [scan, Mode.next, if_pos hquote, List.nil_append]⟩
    · exact ⟨by simp only [Mode.next, if_neg hquote, Mode.hasWord], [c], fun word rest => by
        simp only [scan, Mode.next, if_neg hquote, List.singleton_append]⟩
  | double =>
    by_cases hquote : c = '"'
    · exact ⟨by simp only [Mode.next, if_pos hquote, Mode.hasWord], [], fun word rest => by
        simp only [scan, Mode.next, if_pos hquote, List.nil_append]⟩
    · by_cases hescape : c = '\\'
      · exact ⟨by simp only [Mode.next, if_neg hquote, if_pos hescape, Mode.hasWord], [], fun word rest => by
          simp only [scan, Mode.next, if_neg hquote, if_pos hescape, List.nil_append]⟩
      · exact ⟨by simp only [Mode.next, if_neg hquote, if_neg hescape, Mode.hasWord], [c], fun word rest => by
          simp only [scan, Mode.next, if_neg hquote, if_neg hescape, List.singleton_append]⟩
  | doubleEscape =>
    refine ⟨rfl, if isKept c then [c] else if c = '\n' then [] else [c, '\\'], fun word rest => ?_⟩
    by_cases hkept : isKept c = true
    · simp only [scan, Mode.next, if_pos hkept, List.singleton_append]
    · by_cases hfeed : c = '\n'
      · simp only [scan, Mode.next, if_neg hkept, if_pos hfeed, List.nil_append]
      · simp only [scan, Mode.next, if_neg hkept, if_neg hfeed, List.cons_append, List.nil_append]

theorem exists_scan_cons (m : Mode) (word : List Char) (c : Char) :
    ∃ done next, ∀ rest, scan m word (c :: rest) = (scan (m.next c) next rest).map (done ++ ·) := by
  have same (next : List Char) (h : ∀ rest, scan m word (c :: rest) = scan (m.next c) next rest) :
      ∃ done next, ∀ rest, scan m word (c :: rest) = (scan (m.next c) next rest).map (done ++ ·) :=
    ⟨[], next, fun rest => by simp [h]⟩
  by_cases hword : m.hasWord = true
  · by_cases hend : m = .bare ∧ isSeparator c = true
    · obtain ⟨rfl, hsep⟩ := hend
      exact ⟨[word.reverse], [], fun rest => by simp [scan, Mode.next, hsep]⟩
    · obtain ⟨-, more, hscan⟩ := exists_scan_hasWord hword hend
      exact same _ fun rest => hscan word rest
  · cases m with
    | comment => exact same [] fun rest => by simp only [scan, Mode.next]
    | gap =>
      by_cases hsep : isSeparator c = true
      · exact same [] fun rest => by simp only [scan, Mode.next, if_pos hsep]
      · by_cases hmark : c = '#'
        · exact same [] fun rest => by simp only [scan, Mode.next, if_neg hsep, if_pos hmark]
        · exact same (inWord [] c).2 fun rest => by simp only [scan, Mode.next, if_neg hsep, if_neg hmark]
    | _ => exact absurd rfl hword

/-- Behind a text the splitter goes on in the mode after it, with some words done and some word open. -/
theorem exists_scan_append (m : Mode) (word cs : List Char) :
    ∃ done next, ∀ rest, scan m word (cs ++ rest) = (scan (m.after cs) next rest).map (done ++ ·) := by
  induction cs generalizing m word with
  | nil => exact ⟨[], word, fun rest => by simp [Mode.after]⟩
  | cons c cs ih =>
    obtain ⟨done, next, hc⟩ := exists_scan_cons m word c
    obtain ⟨done', next', hcs⟩ := ih (m.next c) next
    refine ⟨done ++ done', next', fun rest => ?_⟩
    rw [List.cons_append, hc, hcs, Option.map_map]
    congr 1
    funext words
    exact (List.append_assoc done done' words).symm

theorem scan_eq_none_iff (m : Mode) (word cs : List Char) : scan m word cs = none ↔ (m.after cs).isOpen = true := by
  obtain ⟨done, next, hscan⟩ := exists_scan_append m word cs
  have hcs := hscan []
  rw [List.append_nil] at hcs
  rw [hcs, Option.map_eq_none_iff, scan_nil_eq_none_iff]

/-! ### Open words -/

/-- Where a word is open, the rest of the command is refused, or it adds to the word and has some words behind it,
whatever the word holds so far. -/
theorem scan_word (hm : m.hasWord = true) (cs : List Char) :
    (∀ word, scan m word cs = none) ∨
      ∃ more words, ∀ word, scan m word cs = some ((word.reverse ++ more) :: words) := by
  induction cs generalizing m with
  | nil =>
    cases m with
    | bare => exact .inr ⟨[], [], fun word => by simp [scan]⟩
    | gap => cases hm
    | comment => cases hm
    | _ => exact .inl fun word => rfl
  | cons c cs ih =>
    by_cases hend : m = .bare ∧ isSeparator c = true
    · obtain ⟨rfl, hsep⟩ := hend
      -- the word ends here, and the words behind it are those of the rest
      cases hrest : scan .gap [] cs with
      | none => exact .inl fun word => by simp [scan, hsep, hrest]
      | some words => exact .inr ⟨[], words, fun word => by simp [scan, hsep, hrest]⟩
    · obtain ⟨hnext, start, hscan⟩ := exists_scan_hasWord hm hend
      rcases ih hnext with hnone | ⟨more, words, hsome⟩
      · exact .inl fun word => by rw [hscan, hnone]
      · exact .inr ⟨start.reverse ++ more, words, fun word => by rw [hscan, hsome]; simp⟩

/-! ### Blanks behind a text -/

/-- Whether blanks behind a text in some mode leave its words as they are. -/
def Harmless : Mode → List Char → Prop
  | .gap, blanks | .bare, blanks => ∀ c ∈ blanks, isSeparator c = true
  | .comment, blanks => ∀ c ∈ blanks.dropWhile (· ≠ '\n'), isSeparator c = true
  | .bareEscape, blanks => blanks = []
  | .single, _ | .double, _ | .doubleEscape, _ => True

variable {word blanks : List Char}

private theorem scan_gap_iff (h : ∀ c ∈ blanks, isBlank c = true) :
    scan .gap word blanks = some [] ↔ ∀ c ∈ blanks, isSeparator c = true := by
  induction blanks generalizing word with
  | nil => simp [scan]
  | cons c blanks ih =>
    obtain ⟨hc, hblanks⟩ := List.forall_mem_cons.1 h
    by_cases hsep : isSeparator c = true
    · rw [scan, if_pos hsep, ih hblanks, List.forall_mem_cons]
      exact ⟨fun h => ⟨hsep, h⟩, fun h => h.2⟩
    · have hmark : c ≠ '#' := ne_of_isBlank hc rfl
      have hword : scan .bare [c] blanks ≠ some [] := by
        rcases scan_word (m := .bare) rfl blanks with hnone | ⟨more, words, hsome⟩
        · simp [hnone]
        · simp [hsome]
      rw [scan, if_neg hsep, if_neg hmark, inWord_of_isBlank hc]
      exact ⟨fun h => absurd h hword, fun h => absurd (h c List.mem_cons_self) hsep⟩

private theorem scan_bare_iff (h : ∀ c ∈ blanks, isBlank c = true) :
    scan .bare word blanks = some [word.reverse] ↔ ∀ c ∈ blanks, isSeparator c = true := by
  cases blanks with
  | nil => simp [scan]
  | cons c blanks =>
    obtain ⟨hc, hblanks⟩ := List.forall_mem_cons.1 h
    by_cases hsep : isSeparator c = true
    · rw [scan, if_pos hsep, List.forall_mem_cons, ← @scan_gap_iff [] _ hblanks]
      cases scan .gap [] blanks with
      | none => simp
      | some words => simp [hsep]
    · -- the blank becomes a part of the word, which is then too long
      have hlonger : scan .bare (c :: word) blanks ≠ some [word.reverse] := by
        rcases scan_word (m := .bare) rfl blanks with hnone | ⟨more, words, hsome⟩
        · simp [hnone]
        · rw [hsome]
          intro heq
          have hlength := congrArg List.length (List.cons.inj (Option.some.inj heq)).1
          simp at hlength
      rw [scan, if_neg hsep, inWord_of_isBlank hc]
      exact ⟨fun h => absurd h hlonger, fun h => absurd (h c List.mem_cons_self) hsep⟩

private theorem scan_comment_iff (h : ∀ c ∈ blanks, isBlank c = true) :
    scan .comment word blanks = some [] ↔ ∀ c ∈ blanks.dropWhile (· ≠ '\n'), isSeparator c = true := by
  induction blanks generalizing word with
  | nil => simp [scan]
  | cons c blanks ih =>
    obtain ⟨hc, hblanks⟩ := List.forall_mem_cons.1 h
    by_cases hfeed : c = '\n'
    · subst hfeed
      rw [scan, if_pos rfl, scan_gap_iff hblanks, List.dropWhile_cons_of_neg (by simp), List.forall_mem_cons]
      exact ⟨fun h => ⟨rfl, h⟩, fun h => h.2⟩
    · rw [scan, if_neg hfeed, ih hblanks, List.dropWhile_cons_of_pos (by simpa using hfeed)]

private theorem scan_quoted (h : ∀ c ∈ blanks, isBlank c = true) :
    scan .single word blanks = none ∧ scan .double word blanks = none ∧ scan .doubleEscape word blanks = none := by
  induction blanks generalizing word with
  | nil => simp [scan]
  | cons c blanks ih =>
    obtain ⟨hc, hblanks⟩ := List.forall_mem_cons.1 h
    have hsingle : c ≠ '\'' := ne_of_isBlank hc rfl
    have hdouble : c ≠ '"' := ne_of_isBlank hc rfl
    have hescape : c ≠ '\\' := ne_of_isBlank hc rfl
    have hdollar : c ≠ '$' := ne_of_isBlank hc rfl
    have hback : c ≠ '\x60' := ne_of_isBlank hc rfl
    simp [scan, isKept, hsingle, hdouble, hescape, hdollar, hback, ih hblanks]

private theorem scan_blanks_ne_none (h : ∀ c ∈ blanks, isBlank c = true) :
    scan .gap word blanks ≠ none ∧ scan .bare word blanks ≠ none := by
  induction blanks generalizing word with
  | nil => simp [scan]
  | cons c blanks ih =>
    obtain ⟨hc, hblanks⟩ := List.forall_mem_cons.1 h
    have hmark : c ≠ '#' := ne_of_isBlank hc rfl
    by_cases hsep : isSeparator c = true
    · simp [scan, hsep, ih hblanks]
    · simp [scan, hsep, hmark, inWord_of_isBlank hc, ih hblanks]

/-- Blanks behind a text change nothing exactly where they are harmless. -/
theorem scan_blanks_iff (m : Mode) (word : List Char) (h : ∀ c ∈ blanks, isBlank c = true) :
    scan m word blanks = scan m word [] ↔ Harmless m blanks := by
  cases m with
  | gap => exact scan_gap_iff h
  | bare => exact scan_bare_iff h
  | comment => exact scan_comment_iff h
  | single => exact iff_of_true (scan_quoted h).1 trivial
  | double => exact iff_of_true (scan_quoted h).2.1 trivial
  | doubleEscape => exact iff_of_true (scan_quoted h).2.2 trivial
  | bareEscape =>
    cases blanks with
    | nil => exact iff_of_true rfl rfl
    | cons c blanks =>
      -- the escape keeps the first blank, so that the command is not refused any more
      have hblanks := (List.forall_mem_cons.1 h).2
      refine iff_of_false ?_ (List.cons_ne_nil c blanks)
      exact (scan_blanks_ne_none hblanks).2

/-! ### Blanks in front of a text -/

/-- How long some words are together; an empty word counts too. -/
def size : List (List Char) → Nat
  | [] => 0
  | w :: words => w.length + 1 + size words

@[simp] theorem size_nil : size [] = 0 := rfl

@[simp] theorem size_cons (w : List Char) (words : List (List Char)) :
    size (w :: words) = w.length + 1 + size words := rfl

@[simp] theorem size_append (words more : List (List Char)) : size (words ++ more) = size words + size more := by
  induction words with
  | nil => simp
  | cons w words ih => simp [ih, Nat.add_assoc]

theorem scan_separators (h : ∀ c ∈ blanks, isSeparator c = true) (rest : List Char) :
    scan .gap [] (blanks ++ rest) = scan .gap [] rest := by
  induction blanks with
  | nil => rfl
  | cons c blanks ih =>
    obtain ⟨hc, hblanks⟩ := List.forall_mem_cons.1 h
    rw [List.cons_append, scan, if_pos hc, ih hblanks]

/-- An open word in front of a text makes the words longer; the text must not start with a comment. -/
private theorem exists_size_bare (hword : word ≠ []) (hmark : rest.head? ≠ some '#') :
    ∃ k, 0 < k ∧ (scan .bare word rest).map size = ((scan .gap [] rest).map size).map (· + k) := by
  have hlength : 0 < word.length := List.length_pos_of_ne_nil hword
  cases rest with
  | nil => exact ⟨word.length + 1, by omega, by simp [scan]⟩
  | cons c rest =>
    by_cases hsep : isSeparator c = true
    · refine ⟨word.length + 1, by omega, ?_⟩
      rw [scan, scan, if_pos hsep, if_pos hsep]
      cases scan .gap [] rest with
      | none => rfl
      | some words => simp [Nat.add_comm]
    · have hc : c ≠ '#' := fun h => hmark (by rw [h, List.head?_cons])
      refine ⟨word.length, hlength, ?_⟩
      rw [scan, scan, if_neg hsep, if_neg hsep, if_neg hc, inWord_eq word]
      rcases scan_word (hasWord_inWord c) rest with hnone | ⟨more, words, hsome⟩
      · simp [hnone]
      · simp [hsome]
        omega

/-- The same with blanks between the word and the text.  The last of them has to be a separator if the text starts like
a comment. -/
private theorem exists_size_blanks (h : ∀ c ∈ blanks, isBlank c = true) :
    (∀ d word, isSeparator d = false → (rest.head? = some '#' → ∀ c ∈ (d :: blanks).getLast?, isSeparator c = true) →
      ∃ k, 0 < k ∧
        (scan .bare (d :: word) (blanks ++ rest)).map size = ((scan .gap [] rest).map size).map (· + k)) ∧
    ((rest.head? = some '#' → ∀ c ∈ blanks.getLast?, isSeparator c = true) →
      ∃ k, ((∀ c ∈ blanks, isSeparator c = true) ∨ 0 < k) ∧
        (scan .gap [] (blanks ++ rest)).map size = ((scan .gap [] rest).map size).map (· + k)) := by
  induction blanks with
  | nil =>
    refine ⟨fun d word hd hmark => ?_, fun _ => ⟨0, .inl (by simp), ?_⟩⟩
    · refine exists_size_bare (List.cons_ne_nil d word) fun hrest => ?_
      have hsep := hmark hrest d rfl
      rw [hd] at hsep
      cases hsep
    · exact (congrFun Option.map_id _).symm
  | cons c blanks ih =>
    obtain ⟨hc, hblanks⟩ := List.forall_mem_cons.1 h
    obtain ⟨hbare, hgap⟩ := ih hblanks
    have hlast (hmark : rest.head? = some '#' → ∀ c' ∈ (c :: blanks).getLast?, isSeparator c' = true) :
        rest.head? = some '#' → ∀ c' ∈ blanks.getLast?, isSeparator c' = true :=
      fun hrest c' hc' => hmark hrest c' (List.mem_getLast?_cons hc')
    rw [List.cons_append]
    by_cases hsep : isSeparator c = true
    · constructor
      · intro d word hd hmark
        obtain ⟨k, -, hk⟩ := hgap (hlast hmark)
        refine ⟨k + (word.length + 2), by omega, ?_⟩
        rw [scan, if_pos hsep, Option.map_map]
        have hsize : size ∘ ((d :: word).reverse :: ·) = (· + (word.length + 2)) ∘ size := by
          funext words
          simp
          omega
        rw [hsize, ← Option.map_map, hk, Option.map_map]
        congr 1
        funext n
        exact Nat.add_assoc n k _
      · intro hmark
        obtain ⟨k, hpos, hk⟩ := hgap (hlast hmark)
        refine ⟨k, hpos.imp_left fun hall => List.forall_mem_cons.2 ⟨hsep, hall⟩, ?_⟩
        rw [scan, if_pos hsep, hk]
    · have hfirst : c ≠ '#' := ne_of_isBlank hc rfl
      constructor
      · intro d word hd hmark
        rw [scan, if_neg hsep, inWord_of_isBlank hc]
        exact hbare c (d :: word) (by simpa using hsep) hmark
      · intro hmark
        obtain ⟨k, hpos, hk⟩ := hbare c [] (by simpa using hsep) hmark
        refine ⟨k, .inr hpos, ?_⟩
        rw [scan, if_neg hsep, if_neg hfirst, inWord_of_isBlank hc]
        exact hk

/-- A text has at least the size that it has without what is behind it. -/
private theorem size_le_of_append {cs tail : List Char} {words more : List (List Char)}
    (h : scan m word cs = some words) (h' : scan m word (cs ++ tail) = some more) : size words ≤ size more := by
  obtain ⟨done, next, hscan⟩ := exists_scan_append m word cs
  have hcs := hscan []
  rw [List.append_nil, h] at hcs
  have htail := hscan tail
  rw [h'] at htail
  obtain ⟨ends, hends, rfl⟩ := Option.map_eq_some_iff.1 hcs.symm
  obtain ⟨others, hothers, rfl⟩ := Option.map_eq_some_iff.1 htail.symm
  have hle : size ends ≤ size others := by
    generalize m.after cs = last at hends hothers
    cases last with
    | gap =>
      obtain rfl : [] = ends := Option.some.inj hends
      exact Nat.zero_le _
    | comment =>
      obtain rfl : [] = ends := Option.some.inj hends
      exact Nat.zero_le _
    | bare =>
      obtain rfl : [next.reverse] = ends := Option.some.inj hends
      rcases scan_word (m := .bare) rfl tail with hnone | ⟨longer, words, hsome⟩
      · rw [hnone] at hothers
        cases hothers
      · rw [hsome] at hothers
        obtain rfl := Option.some.inj hothers
        simp
        omega
    | _ => cases hends
  rw [size_append, size_append]
  omega

/-! ### Trimmed texts -/

/-- The words of a text are those that it has among blanks, if and only if the blanks in front are separators, unless
the text is refused at its end, and the blanks behind are harmless.  Where a text starts like a comment, this is about
blanks in front that do not make a word of it. -/
theorem scan_trimmed_iff {lead core tail : List Char} (hlead : ∀ c ∈ lead, isBlank c = true)
    (htail : ∀ c ∈ tail, isBlank c = true)
    (hmark : core.head? = some '#' → ∀ c ∈ lead.getLast?, isSeparator c = true) :
    scan .gap [] core = scan .gap [] (lead ++ (core ++ tail)) ↔
      ((Mode.gap.after core).isOpen = true ∨ ∀ c ∈ lead, isSeparator c = true) ∧
        Harmless (Mode.gap.after core) tail := by
  obtain ⟨done, next, hscan⟩ := exists_scan_append .gap [] core
  have hcore := hscan []
  rw [List.append_nil] at hcore
  have hopen := scan_eq_none_iff .gap [] core
  have hbehind : scan .gap [] core = scan .gap [] (core ++ tail) ↔ Harmless (Mode.gap.after core) tail := by
    have hinjective : Function.Injective (done ++ · : List (List Char) → List (List Char)) :=
      fun _ _ => List.append_cancel_left
    rw [hcore, hscan tail, (Option.map_injective hinjective).eq_iff, eq_comm]
    exact scan_blanks_iff _ next htail
  by_cases hall : ∀ c ∈ lead, isSeparator c = true
  · rw [scan_separators hall, hbehind]
    exact ⟨fun h => ⟨.inr hall, h⟩, fun h => h.2⟩
  · have hfirst : (core ++ tail).head? = some '#' → core.head? = some '#' := by
      cases core with
      | cons c core => exact id
      | nil =>
        intro h
        exact absurd (htail '#' (List.mem_of_mem_head? h)) (by decide)
    obtain ⟨k, hpos, hsize⟩ := (@exists_size_blanks (core ++ tail) _ hlead).2 fun h => hmark (hfirst h)
    have hk : 0 < k := hpos.resolve_left hall
    constructor
    · intro h
      cases hnone : scan .gap [] core with
      | none =>
        -- both are refused, and so is the text without the blanks in front
        have hwhole : scan .gap [] (lead ++ (core ++ tail)) = none := h.symm.trans hnone
        rw [hwhole, Option.map_none, eq_comm, Option.map_eq_none_iff, Option.map_eq_none_iff] at hsize
        exact ⟨.inl (hopen.1 hnone), hbehind.1 (hnone.trans hsize.symm)⟩
      | some words =>
        have hwhole : scan .gap [] (lead ++ (core ++ tail)) = some words := h.symm.trans hnone
        rw [hwhole, Option.map_some, eq_comm, Option.map_eq_some_iff] at hsize
        obtain ⟨n, hn, hlonger⟩ := hsize
        obtain ⟨more, hmore, rfl⟩ := Option.map_eq_some_iff.1 hn
        have hle := size_le_of_append hnone hmore
        omega
    · rintro ⟨hrefused, hharmless⟩
      have hnone : scan .gap [] core = none := hopen.2 (hrefused.resolve_right hall)
      have hbody : scan .gap [] (core ++ tail) = none := (hbehind.2 hharmless).symm.trans hnone
      rw [hbody, Option.map_none, Option.map_none, Option.map_eq_none_iff] at hsize
      rw [hnone, hsize]

theorem split_eq_none_iff (s : String) : split s = none ↔ (Mode.gap.after s.toList).isOpen = true := by
  unfold split
  rw [Option.map_eq_none_iff, scan_eq_none_iff]

/-- The blanks that a text starts with. -/
def leading (s : String) : List Char := s.toList.takeWhile isBlank

/-- The blanks that a text ends with and does not start with. -/
def trailing (s : String) : List Char := ((s.toList.dropWhile isBlank).reverse.takeWhile isBlank).reverse

theorem toList_eq_append (s : String) : s.toList = leading s ++ ((Text.trim s).toList ++ trailing s) := by
  have hbody : Text.trimChars s.toList ++ trailing s = s.toList.dropWhile isBlank := by
    unfold Text.trimChars trailing
    rw [← List.reverse_append, List.takeWhile_append_dropWhile, List.reverse_reverse]
  rw [Text.toList_trim, hbody, leading, List.takeWhile_append_dropWhile]

/-- `scan_trimmed_iff` for a text and its trimmed form. -/
theorem split_trim_iff {s : String}
    (hmark : (Text.trim s).toList.head? = some '#' → ∀ c ∈ (leading s).getLast?, isSeparator c = true) :
    split (Text.trim s) = split s ↔
      ((Mode.gap.after (Text.trim s).toList).isOpen = true ∨ ∀ c ∈ leading s, isSeparator c = true) ∧
        Harmless (Mode.gap.after (Text.trim s).toList) (trailing s) := by
  have hlead : ∀ c ∈ leading s, isBlank c = true := fun c hc => List.mem_takeWhile_imp hc
  have htail : ∀ c ∈ trailing s, isBlank c = true := fun c hc => List.mem_takeWhile_imp (List.mem_reverse.1 hc)
  have hinjective : Function.Injective (Option.map (List.map String.ofList)) :=
    Option.map_injective (List.map_injective_iff.2 fun a b h => String.ofList_injective h)
  have hscan := scan_trimmed_iff hlead htail hmark
  rw [← toList_eq_append] at hscan
  unfold split
  rw [hinjective.eq_iff, hscan]

end LineAtlas.Words
