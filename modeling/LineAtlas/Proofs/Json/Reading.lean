import LineAtlas.Proofs.Json.Kinds
import LineAtlas.Proofs.Text.Numeral
import LineAtlas.Proofs.Text.Pieces

/-!
# What the JSON reader makes of its tokens

A string is read piece by piece (`stringBody_pieces`), a whole number of at most 64 bits digit by digit
(`number_chars`), a list item by item (`items_intercalate`) and an object field by field (`fields_intercalate`).
`ReadsAs` puts them on one footing: a text that a reader takes as one value, whatever follows it that cannot belong to a
number.  `ReadsBetween` adds the blanks that may stand around such a text; a whole text of this kind is read as its
value (`read_of_readsBetween`).
-/

namespace LineAtlas.Json

/-- Each item of a list leaves at least one item where it is replaced by some. -/
private theorem length_le_length_flatMap {α β : Type} {f : α → List β} {l : List α} (h : ∀ a ∈ l, f a ≠ []) :
    l.length ≤ (l.flatMap f).length := by
  induction l with
  | nil => exact Nat.le_refl _
  | cons a l ih =>
    have hfirst := List.length_pos_iff.2 (h a List.mem_cons_self)
    have hrest := ih fun b hb => h b (List.mem_cons_of_mem a hb)
    rw [List.flatMap_cons, List.length_append, List.length_cons]
    omega

/-! ### Strings -/

/-- A hexadecimal digit takes one byte. -/
theorem utf8Size_of_hexDigit? {c : Char} {n : Nat} (h : Numeral.hexDigit? c = some n) : c.utf8Size = 1 := by
  have hle (a b : Char) : a ≤ b ↔ a.toNat ≤ b.toNat := by rw [Char.le_def, UInt32.le_iff_toNat_le]; rfl
  have hrange : c.toNat < 128 := by
    unfold Numeral.hexDigit? at h
    simp only [Char.isDigit_iff_toNat, Bool.and_eq_true, decide_eq_true_eq, hle, Char.reduceToNat] at h
    split at h
    · omega
    split at h
    · omega
    split at h
    · omega
    · cases h
  rw [Char.utf8Size, if_pos]
  rw [UInt32.le_iff_toNat_le]
  exact Nat.le_of_lt_succ hrange

/-- Four hexadecimal digits that stand for a number. -/
def HexCode (n : Nat) (digits : List Char) : Prop := digits.length = 4 ∧ Numeral.inBase? 16 digits = some n

theorem hexQuad_of_hexCode {n : Nat} {digits : List Char} (h : HexCode n digits) (place : Place) (rest : List Char) :
    ∃ next, hexQuad place (digits ++ rest) = .ok (n, ⟨rest, next⟩) := by
  obtain ⟨hlength, hvalue⟩ := h
  obtain ⟨a, b, c, d, rfl⟩ := List.length_eq_four.1 hlength
  simp only [Numeral.inBase?, List.isEmpty_cons, Bool.false_eq_true, if_false, List.foldlM_cons, List.foldlM_nil,
    Option.bind_eq_bind, Option.bind_eq_some_iff, Option.map_eq_some_iff, Option.filter_eq_some_iff] at hvalue
  obtain ⟨_, ⟨i, ⟨hi, -⟩, rfl⟩, _, ⟨j, ⟨hj, -⟩, rfl⟩, _, ⟨k, ⟨hk, -⟩, rfl⟩, _, ⟨l, ⟨hl, -⟩, rfl⟩, hn⟩ := hvalue
  cases hn
  -- each digit is one byte, so the four are the next four characters
  have hbytes : afterBytes 4 place (a :: b :: c :: d :: rest) =
      ((((place.after a).after b).after c).after d, true) := by
    simp [afterBytes, utf8Size_of_hexDigit? hi, utf8Size_of_hexDigit? hj, utf8Size_of_hexDigit? hk,
      utf8Size_of_hexDigit? hl]
  refine ⟨(((place.after a).after b).after c).after d, ?_⟩
  simp [hexQuad, hbytes, hi, hj, hk, hl]
  omega

/-- A character may be written by its code. -/
theorem escaped_code {c : Char} {digits : List Char} (h : HexCode c.toNat digits) (place : Place) (rest : List Char) :
    ∃ next, escaped place ('u' :: (digits ++ rest)) = .ok (c, ⟨rest, next⟩) := by
  obtain ⟨next, hquad⟩ := hexQuad_of_hexCode h (place.after 'u') rest
  have hvalid : c.toNat < 0xD800 ∨ 0xDFFF < c.toNat := by
    have hc : c.toNat < 0xD800 ∨ (0xDFFF < c.toNat ∧ c.toNat < 0x110000) := c.valid
    exact hc.imp_right And.left
  refine ⟨next, ?_⟩
  show escapedCode (place.after 'u') _ = _
  simp only [escapedCode, bind, Except.bind, hquad]
  rw [if_neg, if_pos, Char.ofNat_toNat]
  · rfl
  · rw [Bool.or_eq_true, decide_eq_true_eq, decide_eq_true_eq]
    omega
  · rw [Bool.and_eq_true, decide_eq_true_eq, decide_eq_true_eq]
    omega

/-- A character beyond sixteen bits may be written by two codes. -/
theorem escaped_pair {c : Char} {high low : Nat} {highs lows : List Char} (hhighs : HexCode (0xD800 + high) highs)
    (hlows : HexCode (0xDC00 + low) lows) (hhigh : high < 0x400) (hlow : low < 0x400)
    (hc : c.toNat = 0x10000 + 0x400 * high + low) (place : Place) (rest : List Char) :
    ∃ next, escaped place ('u' :: (highs ++ '\\' :: 'u' :: (lows ++ rest))) = .ok (c, ⟨rest, next⟩) := by
  obtain ⟨middle, hfirst⟩ := hexQuad_of_hexCode hhighs (place.after 'u') ('\\' :: 'u' :: (lows ++ rest))
  obtain ⟨next, hsecond⟩ := hexQuad_of_hexCode hlows ((middle.after '\\').after 'u') rest
  have hvalue : (0xD800 + high - 0xD800) * 0x400 + (0xDC00 + low - 0xDC00) + 0x10000 = c.toNat := by omega
  refine ⟨next, ?_⟩
  show escapedCode (place.after 'u') _ = _
  simp only [escapedCode, bind, Except.bind, hfirst, escapeSign, if_true, hsecond, hvalue, Char.ofNat_toNat]
  rw [if_neg, if_neg, if_neg]
  · rfl
  · rw [Bool.or_eq_true, decide_eq_true_eq, decide_eq_true_eq]
    omega
  · rw [Bool.or_eq_true, decide_eq_true_eq, decide_eq_true_eq]
    omega
  · rw [Bool.and_eq_true, decide_eq_true_eq, decide_eq_true_eq]
    omega

/-- The escapes of one sign, each with the character it stands for. -/
def signs : List (Char × Char) :=
  [('"', '"'), ('\\', '\\'), ('/', '/'), ('b', '\x08'), ('f', '\x0c'), ('n', '\n'), ('r', '\r'), ('t', '\t')]

/-- A text inside a string that stands for one character. -/
inductive SpellsChar : Char → List Char → Prop
  | plain {c : Char} : c ≠ '"' → c ≠ '\\' → 0x20 ≤ c.toNat → SpellsChar c [c]
  | sign {c mark : Char} : (mark, c) ∈ signs → SpellsChar c ['\\', mark]
  | code {c : Char} {digits : List Char} : HexCode c.toNat digits → SpellsChar c ('\\' :: 'u' :: digits)
  | pair {c : Char} {high low : Nat} {highs lows : List Char} : HexCode (0xD800 + high) highs →
      HexCode (0xDC00 + low) lows → high < 0x400 → low < 0x400 → c.toNat = 0x10000 + 0x400 * high + low →
      SpellsChar c ('\\' :: 'u' :: (highs ++ '\\' :: 'u' :: lows))

/-- A text inside a string that is read as one character: an escape, or the character itself. -/
def ReadsChar (c : Char) (piece : List Char) : Prop :=
  (∃ tail, piece = '\\' :: tail ∧ ∀ place rest, ∃ next, escaped place (tail ++ rest) = .ok (c, ⟨rest, next⟩)) ∨
  (piece = [c] ∧ c ≠ '"' ∧ c ≠ '\\' ∧ ¬ c.toNat < 0x20)

theorem SpellsChar.reads {c : Char} {piece : List Char} (h : SpellsChar c piece) : ReadsChar c piece := by
  cases h with
  | plain hquote hslash hcontrol => exact .inr ⟨rfl, hquote, hslash, Nat.not_lt.2 hcontrol⟩
  | @sign mark hmark =>
    refine .inl ⟨[mark], rfl, fun place rest => ?_⟩
    simp only [signs, List.mem_cons, List.not_mem_nil, or_false, Prod.mk.injEq] at hmark
    rcases hmark with ⟨rfl, rfl⟩ | ⟨rfl, rfl⟩ | ⟨rfl, rfl⟩ | ⟨rfl, rfl⟩ | ⟨rfl, rfl⟩ | ⟨rfl, rfl⟩ | ⟨rfl, rfl⟩ |
      ⟨rfl, rfl⟩
    all_goals exact ⟨_, rfl⟩
  | code hdigits => exact .inl ⟨_, rfl, escaped_code hdigits⟩
  | pair hhighs hlows hhigh hlow hc =>
    refine .inl ⟨_, rfl, fun place rest => ?_⟩
    obtain ⟨next, hnext⟩ := escaped_pair hhighs hlows hhigh hlow hc place rest
    exact ⟨next, by simpa using hnext⟩

theorem ReadsChar.ne_nil {c : Char} {piece : List Char} (h : ReadsChar c piece) : piece ≠ [] := by
  rcases h with ⟨tail, rfl, -⟩ | ⟨rfl, -⟩ <;> simp

section Strings

variable {cs : List Char} {pieces : List (List Char)}

/-- Each character takes one step, which may read several of the text. -/
theorem stringFrom_pieces (h : List.Forall₂ ReadsChar cs pieces) {fuel : Nat} (hfuel : cs.length < fuel)
    (done : List Char) (place : Place) (rest : List Char) :
    ∃ next, stringFrom fuel done place (pieces.flatten ++ '"' :: rest) =
      .ok (String.ofList (done.reverse ++ cs), ⟨rest, next⟩) := by
  induction h generalizing fuel done place with
  | nil =>
    obtain ⟨fuel, rfl⟩ := Nat.exists_eq_add_one_of_ne_zero (Nat.ne_zero_of_lt hfuel)
    rw [List.append_nil]
    exact ⟨_, rfl⟩
  | @cons c piece cs pieces hc _ ih =>
    obtain ⟨fuel, rfl⟩ := Nat.exists_eq_add_one_of_ne_zero (Nat.ne_zero_of_lt hfuel)
    have hdone : done.reverse ++ c :: cs = (c :: done).reverse ++ cs := by simp
    rw [hdone, List.flatten_cons, List.append_assoc]
    rcases hc with ⟨tail, rfl, hescaped⟩ | ⟨rfl, hquote, hslash, hcontrol⟩
    · obtain ⟨after, hafter⟩ := hescaped (place.after '\\') (pieces.flatten ++ '"' :: rest)
      obtain ⟨next, hnext⟩ := ih (Nat.lt_of_succ_lt_succ hfuel) (c :: done) after
      refine ⟨next, ?_⟩
      rw [List.cons_append, stringFrom, if_neg (by decide), if_pos rfl, hafter]
      exact hnext
    · obtain ⟨next, hnext⟩ := ih (Nat.lt_of_succ_lt_succ hfuel) (c :: done) (place.after c)
      refine ⟨next, ?_⟩
      rw [List.singleton_append, stringFrom, if_neg hquote, if_neg hslash, if_neg hcontrol]
      exact hnext

/-- The pieces between two quotes are read as the string of their characters. -/
theorem stringBody_pieces (h : List.Forall₂ ReadsChar cs pieces) (place : Place) (rest : List Char) :
    ∃ next, stringBody place (pieces.flatten ++ '"' :: rest) = .ok (String.ofList cs, ⟨rest, next⟩) := by
  have hne : ∀ piece ∈ pieces, piece ≠ [] := by
    intro piece hpiece
    obtain ⟨i, hi, rfl⟩ := List.getElem_of_mem hpiece
    exact (h.get (h.length_eq ▸ hi) hi).ne_nil
  have hlength : pieces.length ≤ pieces.flatten.length := by
    have hflat := length_le_length_flatMap hne
    rwa [List.flatMap_id'] at hflat
  have hcount := h.length_eq
  refine stringFrom_pieces h ?_ [] place rest
  rw [List.length_append]
  omega

end Strings

/-! ### Numbers -/

/-- What cannot belong to a number that ends before it. -/
def Stops (rest : List Char) : Prop := ∀ c ∈ rest.head?, c.isDigit = false ∧ c ≠ '.' ∧ c ≠ 'e' ∧ c ≠ 'E'

section Numbers

open Numeral (digit wordLimit)

variable {rest : List Char}

private theorem le_foldl_digits (n : Nat) (cs : List Char) : n ≤ cs.foldl (fun n c => 10 * n + digit c) n := by
  induction cs generalizing n with
  | nil => exact Nat.le_refl n
  | cons c cs ih =>
    have hstep := ih (10 * n + digit c)
    rw [List.foldl_cons]
    omega

/-- Digits are taken up to what follows them where their number stays within the limit. -/
private theorem takeDigits_append {cs : List Char} {limit n : Nat} (hdigits : ∀ c ∈ cs, c.isDigit = true)
    (hrest : Stops rest) (hlimit : cs.foldl (fun n c => 10 * n + digit c) n ≤ limit) (count : Nat) (place : Place) :
    ∃ taken next, takeDigits limit n count place (cs ++ rest) =
      (cs.foldl (fun n c => 10 * n + digit c) n, taken, ⟨rest, next⟩) := by
  induction cs generalizing n count place with
  | nil =>
    refine ⟨count, place, ?_⟩
    cases rest with
    | nil => rfl
    | cons c rest => rw [List.nil_append, takeDigits, (hrest c rfl).1, Bool.false_and, if_neg Bool.false_ne_true]; rfl
  | cons c cs ih =>
    have hfits : 10 * n + digit c ≤ limit := Nat.le_trans (le_foldl_digits _ cs) hlimit
    obtain ⟨taken, next, hnext⟩ :=
      ih (fun d hd => hdigits d (List.mem_cons_of_mem _ hd)) hlimit (count + 1) (place.after c)
    refine ⟨taken, next, ?_⟩
    rw [List.cons_append, takeDigits, hdigits c List.mem_cons_self, Bool.true_and, if_pos (decide_eq_true hfits)]
    exact hnext

private theorem afterDigits_of_stops (hrest : Stops rest) (negative : Bool) (n : Nat) (place : Place) :
    afterDigits negative n ⟨rest, place⟩ = wholeNumber negative n ⟨rest, place⟩ := by
  cases rest with
  | nil => rfl
  | cons c rest =>
    obtain ⟨-, hpoint, he, hE⟩ := hrest c rfl
    simp [afterDigits, hpoint, he, hE]

/-- The digits of a number of at most 64 bits are read as that number. -/
theorem number_chars {n : Nat} (hn : n ≤ wordLimit) (hrest : Stops rest) (negative : Bool) (place : Place) :
    ∃ next, number negative ⟨Numeral.chars n ++ rest, place⟩ = wholeNumber negative n ⟨rest, next⟩ := by
  by_cases hzero : n = 0
  · -- Only zero begins with a zero, and no digit may come after it.
    subst hzero
    refine ⟨place.after '0', ?_⟩
    show number negative ⟨'0' :: rest, place⟩ = _
    rw [← afterDigits_of_stops hrest]
    cases rest with
    | nil => rfl
    | cons d rest =>
      unfold number
      simp only [if_true, (hrest d rfl).1, if_neg Bool.false_ne_true]
  · obtain ⟨c, cs, hcs, hc, hne⟩ := Numeral.exists_chars_eq_cons_of_pos (Nat.pos_of_ne_zero hzero)
    have hvalue : cs.foldl (fun n c => 10 * n + digit c) (digit c) = n := by
      have hn := Numeral.value_chars n
      rw [hcs, Numeral.value, List.foldl_cons, Nat.mul_zero, Nat.zero_add] at hn
      exact hn
    have hdigits : ∀ d ∈ cs, d.isDigit = true := by
      intro d hd
      exact Numeral.isDigit_of_mem_chars (hcs ▸ List.mem_cons_of_mem c hd)
    rw [← hvalue] at hn
    obtain ⟨taken, next, hnext⟩ := takeDigits_append hdigits hrest hn 0 (place.after c)
    have hend : Cursor.atDigit ⟨rest, next⟩ = false := by
      cases rest with
      | nil => rfl
      | cons d rest => exact (hrest d rfl).1
    refine ⟨next, ?_⟩
    rw [hcs, List.cons_append]
    unfold number
    simp only [if_neg hne, hc, if_true, hnext, hvalue, hend, if_neg Bool.false_ne_true]
    exact afterDigits_of_stops hrest negative n next

end Numbers

/-! ### Blanks around a value -/

/-- A text that is read as `v` wherever it stands: no blank and no closing bracket comes first, and the reader leaves
what cannot belong to a number. -/
structure ReadsAs {α : Type} (item : Cursor → Result α) (v : α) (cs : List Char) : Prop where
  opens : ∃ c tail, cs = c :: tail ∧ isGap c = false ∧ c ≠ ']'
  reads : ∀ place rest, Stops rest → ∃ next, item ⟨cs ++ rest, place⟩ = .ok (v, ⟨rest, next⟩)

/-- Blanks between two tokens. -/
def Gap (cs : List Char) : Prop := ∀ c ∈ cs, isGap c = true

theorem gap_nil : Gap [] := by simp [Gap]

/-- A text with blanks around it. -/
def Spaced (body text : List Char) : Prop :=
  ∃ before after, Gap before ∧ Gap after ∧ text = before ++ (body ++ after)

/-- A text that is read as `v` and may have blanks around it. -/
def ReadsBetween {α : Type} (item : Cursor → Result α) (v : α) (text : List Char) : Prop :=
  ∃ body, ReadsAs item v body ∧ Spaced body text

section Gaps

variable {c : Char} {gap rest : List Char}

theorem skip_cons (h : isGap c = false) (rest : List Char) (place : Place) :
    Cursor.skip ⟨c :: rest, place⟩ = ⟨c :: rest, place⟩ := by
  unfold Cursor.skip skipFrom
  rw [h, if_neg Bool.false_ne_true]

theorem skip_cons_gap (h : isGap c = true) (rest : List Char) (place : Place) :
    Cursor.skip ⟨c :: rest, place⟩ = Cursor.skip ⟨rest, place.after c⟩ := by
  simp [Cursor.skip, skipFrom, h]

/-- Blanks are passed over up to the next token. -/
theorem skip_gap (hgap : Gap gap) (hc : isGap c = false) (rest : List Char) (place : Place) :
    Cursor.skip ⟨gap ++ c :: rest, place⟩ = ⟨c :: rest, gap.foldl Place.after place⟩ := by
  induction gap generalizing place with
  | nil => exact skip_cons hc rest place
  | cons d gap ih =>
    have hrest : Gap gap := fun e he => hgap e (by simp [he])
    rw [List.cons_append, skip_cons_gap (hgap d (by simp)), ih hrest]
    rfl

theorem skip_gap_nil (hgap : Gap gap) (place : Place) : (Cursor.skip ⟨gap, place⟩).rest = [] := by
  induction gap generalizing place with
  | nil => rfl
  | cons d gap ih =>
    have hrest : Gap gap := fun e he => hgap e (by simp [he])
    rw [skip_cons_gap (hgap d (by simp))]
    exact ih hrest _

theorem stops_cons (h : c = ',' ∨ c = ']' ∨ c = '\x7d') (rest : List Char) : Stops (c :: rest) := by
  intro d hd
  obtain rfl : c = d := Option.some.inj hd
  rcases h with rfl | rfl | rfl <;> decide

theorem stops_gap (hgap : Gap gap) (hrest : Stops rest) : Stops (gap ++ rest) := by
  cases gap with
  | nil => exact hrest
  | cons d gap =>
    intro e he
    obtain rfl : d = e := Option.some.inj he
    have hd : isGap d = true := hgap d (by simp)
    simp only [isGap, Bool.or_eq_true, decide_eq_true_eq] at hd
    rcases hd with ((rfl | rfl) | rfl) | rfl <;> decide

theorem stops_flatMap {close : Char} (h : close = ']' ∨ close = '\x7d') (texts : List (List Char)) (rest : List Char) :
    Stops (texts.flatMap (',' :: ·) ++ close :: rest) := by
  cases texts with
  | nil => exact stops_cons (.inr h) rest
  | cons text texts => exact stops_cons (.inl rfl) _

/-- The comma may be passed over where the next token is not the closing mark. -/
private theorem afterComma_gap {close : Char} (hgap : Gap gap) (hc : isGap c = false) (hclose : c ≠ close)
    (rest : List Char) (place : Place) :
    afterComma close ⟨gap ++ c :: rest, place⟩ = .ok ⟨c :: rest, gap.foldl Place.after place⟩ := by
  simp [afterComma, skip_gap hgap hc, hclose]

end Gaps

/-! ### Lists -/

section Items

variable {α : Type} {item : Cursor → Result α} {vs : List α} {texts : List (List Char)} {gap : List Char}

theorem itemsFrom_step {fuel : Nat} {done : List α} {cur before next : Cursor} {v : α}
    (hclose : cur.skip.rest.head? ≠ some ']') (hbefore : beforeItem done.isEmpty cur.skip = .ok before)
    (hitem : item before = .ok (v, next)) :
    itemsFrom item (fuel + 1) done cur = itemsFrom item fuel (v :: done) next := by
  rw [itemsFrom]
  split
  · rename_i hrest
    rw [hrest] at hclose
    exact absurd rfl hclose
  · rw [hbefore]
    dsimp only
    rw [hitem]

/-- The items after the first, each behind its comma. -/
theorem itemsFrom_flatMap (h : List.Forall₂ (ReadsBetween item) vs texts) {fuel : Nat} (hfuel : vs.length < fuel)
    {done : List α} (hdone : done ≠ []) (hgap : Gap gap) (place : Place) (rest : List Char) :
    ∃ next, itemsFrom item fuel done ⟨gap ++ (texts.flatMap (',' :: ·) ++ ']' :: rest), place⟩ =
      .ok (done.reverse ++ vs, ⟨rest, next⟩) := by
  induction h generalizing fuel done gap place with
  | nil =>
    obtain ⟨fuel, rfl⟩ := Nat.exists_eq_add_one_of_ne_zero (Nat.ne_zero_of_lt hfuel)
    rw [List.flatMap_nil, List.nil_append, List.append_nil, itemsFrom, skip_gap hgap (by decide)]
    exact ⟨_, rfl⟩
  | @cons v text vs texts hv _ ih =>
    obtain ⟨fuel, rfl⟩ := Nat.exists_eq_add_one_of_ne_zero (Nat.ne_zero_of_lt hfuel)
    obtain ⟨body, hbody, before, after, hbefore, hafter, rfl⟩ := hv
    obtain ⟨c, tail, rfl, hc, hclose⟩ := hbody.opens
    obtain ⟨read, hread⟩ := hbody.reads (before.foldl Place.after ((gap.foldl Place.after place).after ','))
      (after ++ (texts.flatMap (',' :: ·) ++ ']' :: rest)) (stops_gap hafter (stops_flatMap (.inl rfl) texts rest))
    obtain ⟨next, hnext⟩ := ih (Nat.lt_of_succ_lt_succ hfuel) (List.cons_ne_nil v done) hafter read
    have hfirst : done.isEmpty = false := List.isEmpty_eq_false_iff.2 hdone
    refine ⟨next, ?_⟩
    simp only [List.flatMap_cons, List.cons_append, List.append_assoc] at hread ⊢
    refine (itemsFrom_step ?_ ?_ hread).trans (hnext.trans (by simp))
    · rw [skip_gap hgap (by decide)]
      simp
    · rw [skip_gap hgap (by decide), hfirst]
      exact afterComma_gap hbefore hc hclose _ _

/-- A list is read item by item, whatever blanks stand around each. -/
theorem items_intercalate (h : List.Forall₂ (ReadsBetween item) vs texts) (hgap : Gap gap) (place : Place)
    (rest : List Char) :
    ∃ next, items item ⟨gap ++ ([','].intercalate texts ++ ']' :: rest), place⟩ = .ok (vs, ⟨rest, next⟩) := by
  unfold items
  cases h with
  | nil =>
    rw [List.intercalate_nil, List.nil_append, itemsFrom, skip_gap hgap (by decide)]
    exact ⟨_, rfl⟩
  | @cons v text vs texts hv hvs =>
    obtain ⟨body, hbody, before, after, hbefore, hafter, rfl⟩ := hv
    obtain ⟨c, tail, rfl, hc, hclose⟩ := hbody.opens
    have hfront : Gap (gap ++ before) := List.forall_mem_append.2 ⟨hgap, hbefore⟩
    obtain ⟨read, hread⟩ := hbody.reads ((gap ++ before).foldl Place.after place)
      (after ++ (texts.flatMap (',' :: ·) ++ ']' :: rest)) (stops_gap hafter (stops_flatMap (.inl rfl) texts rest))
    have hlength : vs.length ≤ (texts.flatMap (',' :: ·)).length := by
      rw [hvs.length_eq]
      exact length_le_length_flatMap fun text _ => List.cons_ne_nil ',' text
    have htext : gap ++ ([','].intercalate ((before ++ (c :: tail ++ after)) :: texts) ++ ']' :: rest) =
        (gap ++ before) ++ c :: (tail ++ (after ++ (texts.flatMap (',' :: ·) ++ ']' :: rest))) := by
      rw [Text.intercalate_cons]
      simp
    rw [htext]
    have hfuel : vs.length <
        (gap ++ before ++ c :: (tail ++ (after ++ (texts.flatMap (',' :: ·) ++ ']' :: rest)))).length := by
      simp only [List.length_append, List.length_cons]
      omega
    obtain ⟨next, hnext⟩ := itemsFrom_flatMap hvs hfuel (List.cons_ne_nil v []) hafter read rest
    refine ⟨next, (itemsFrom_step ?_ ?_ hread).trans hnext⟩
    · rw [skip_gap hfront hc]
      exact fun hhead => hclose (Option.some.inj hhead)
    · rw [skip_gap hfront hc]
      rfl

end Items

/-! ### Objects -/

section Fields

variable {item : Cursor → Result Value} {fs : List (String × Value)} {texts : List (List Char)} {gap : List Char}

/-- Blanks before a value are passed over by a reader that looks for its first token. -/
theorem ReadsBetween.reads {v : Value} {text rest : List Char} (h : ReadsBetween item v text)
    (hskip : ∀ cur, item cur.skip = item cur) (hrest : Stops rest) (place : Place) :
    ∃ after next, Gap after ∧ item ⟨text ++ rest, place⟩ = .ok (v, ⟨after ++ rest, next⟩) := by
  obtain ⟨body, hbody, before, after, hbefore, hafter, rfl⟩ := h
  obtain ⟨c, tail, rfl, hc, -⟩ := hbody.opens
  obtain ⟨next, hnext⟩ := hbody.reads (before.foldl Place.after place) (after ++ rest) (stops_gap hafter hrest)
  refine ⟨after, next, hafter, ?_⟩
  rw [← hnext, ← hskip, List.append_assoc, List.append_assoc, List.cons_append, skip_gap hbefore hc]

/-- A text that is read as a field, up to blanks behind its value, once the quote of its name is passed. -/
def ReadsField (item : Cursor → Result Value) (p : String × Value) (cs : List Char) : Prop :=
  ∃ before body, Gap before ∧ cs = before ++ '"' :: body ∧ ∀ rest, Stops rest → ∀ isFirst cur place,
    beforeField isFirst cur = .ok ⟨body ++ rest, place⟩ →
      ∃ after next, Gap after ∧ field item isFirst cur = .ok (p, ⟨after ++ rest, next⟩)

/-- A name, a colon and a value, with blanks around each, are read as a field. -/
theorem readsField_pieces {p : String × Value} {before text : List Char} {pieces : List (List Char)}
    (hskip : ∀ cur, item cur.skip = item cur) (hbefore : Gap before) (hname : List.Forall₂ ReadsChar p.1.toList pieces)
    (hgap : Gap gap) (hv : ReadsBetween item p.2 text) :
    ReadsField item p (before ++ '"' :: (pieces.flatten ++ '"' :: (gap ++ ':' :: text))) := by
  refine ⟨before, _, hbefore, rfl, fun rest hrest isFirst cur place hcur => ?_⟩
  obtain ⟨named, hnamed⟩ := stringBody_pieces hname place (gap ++ ':' :: (text ++ rest))
  have hcolon : colon ⟨gap ++ ':' :: (text ++ rest), named⟩ =
      .ok ⟨text ++ rest, (gap.foldl Place.after named).after ':'⟩ := by
    simp [colon, skip_gap hgap (show isGap ':' = false by decide)]
  obtain ⟨after, next, hafter, hnext⟩ := hv.reads hskip hrest ((gap.foldl Place.after named).after ':')
  refine ⟨after, next, hafter, ?_⟩
  rw [String.ofList_toList] at hnamed
  simp only [List.append_assoc, List.cons_append] at hcur
  simp only [field, bind, Except.bind, hcur, hnamed, hcolon, hnext]
  rfl

/-- The quote of a name is passed over behind a comma and blanks. -/
private theorem beforeField_comma (hgap : Gap gap) (rest : List Char) (place : Place) :
    ∃ next, beforeField false ⟨',' :: (gap ++ '"' :: rest), place⟩ = .ok ⟨rest, next⟩ := by
  simp [beforeField, afterComma_gap hgap (show isGap '"' = false by decide) (show '"' ≠ '\x7d' by decide)]

theorem fieldsFrom_step {fuel : Nat} {isFirst : Bool} {done : List (String × Value)} {cur next : Cursor}
    {p : String × Value} (hclose : cur.skip.rest.head? ≠ some '\x7d')
    (hfield : field item isFirst cur.skip = .ok (p, next)) :
    fieldsFrom item (fuel + 1) isFirst done cur = fieldsFrom item fuel false (setField p.1 p.2 done) next := by
  rw [fieldsFrom]
  split
  · rename_i hrest
    rw [hrest] at hclose
    exact absurd rfl hclose
  · rw [hfield]

/-- What an object holds after the listed fields were read one after the other. -/
def gathered (listed done : List (String × Value)) : List (String × Value) :=
  listed.foldl (fun done p => setField p.1 p.2 done) done

/-- The fields after the first, each behind its comma. -/
theorem fieldsFrom_flatMap (h : List.Forall₂ (ReadsField item) fs texts) {fuel : Nat} (hfuel : fs.length < fuel)
    (done : List (String × Value)) (hgap : Gap gap) (place : Place) (rest : List Char) :
    ∃ next, fieldsFrom item fuel false done ⟨gap ++ (texts.flatMap (',' :: ·) ++ '\x7d' :: rest), place⟩ =
      .ok (gathered fs done, ⟨rest, next⟩) := by
  induction h generalizing fuel done gap place with
  | nil =>
    obtain ⟨fuel, rfl⟩ := Nat.exists_eq_add_one_of_ne_zero (Nat.ne_zero_of_lt hfuel)
    rw [List.flatMap_nil, List.nil_append, fieldsFrom, skip_gap hgap (by decide)]
    exact ⟨_, rfl⟩
  | @cons p text fs texts hp _ ih =>
    obtain ⟨fuel, rfl⟩ := Nat.exists_eq_add_one_of_ne_zero (Nat.ne_zero_of_lt hfuel)
    obtain ⟨before, body, hbefore, rfl, hbody⟩ := hp
    obtain ⟨named, hnamed⟩ := beforeField_comma hbefore (body ++ (texts.flatMap (',' :: ·) ++ '\x7d' :: rest))
      (gap.foldl Place.after place)
    obtain ⟨after, read, hafter, hread⟩ := hbody _ (stops_flatMap (.inr rfl) texts rest) _ _ _ hnamed
    obtain ⟨next, hnext⟩ := ih (Nat.lt_of_succ_lt_succ hfuel) (setField p.1 p.2 done) hafter read
    refine ⟨next, (fieldsFrom_step ?_ ?_).trans hnext⟩
    · simp only [List.flatMap_cons, List.cons_append]
      rw [skip_gap hgap (by decide)]
      simp
    · simp only [List.flatMap_cons, List.cons_append, List.append_assoc]
      rw [skip_gap hgap (by decide)]
      exact hread

/-- An object is read field by field, whatever blanks stand around each. -/
theorem fields_intercalate (h : List.Forall₂ (ReadsField item) fs texts) (hgap : Gap gap) (place : Place)
    (rest : List Char) :
    ∃ next, fields item ⟨gap ++ ([','].intercalate texts ++ '\x7d' :: rest), place⟩ =
      .ok (gathered fs [], ⟨rest, next⟩) := by
  unfold fields
  cases h with
  | nil =>
    rw [List.intercalate_nil, List.nil_append, fieldsFrom, skip_gap hgap (by decide)]
    exact ⟨_, rfl⟩
  | @cons p text fs texts hp hfs =>
    obtain ⟨before, body, hbefore, rfl, hbody⟩ := hp
    have hfront : Gap (gap ++ before) := List.forall_mem_append.2 ⟨hgap, hbefore⟩
    obtain ⟨after, read, hafter, hread⟩ := hbody _ (stops_flatMap (.inr rfl) texts rest) true
      ⟨'"' :: (body ++ (texts.flatMap (',' :: ·) ++ '\x7d' :: rest)), (gap ++ before).foldl Place.after place⟩ _ rfl
    have hlength : fs.length ≤ (texts.flatMap (',' :: ·)).length := by
      rw [hfs.length_eq]
      exact length_le_length_flatMap fun text _ => List.cons_ne_nil ',' text
    have htext : gap ++ ([','].intercalate ((before ++ '"' :: body) :: texts) ++ '\x7d' :: rest) =
        (gap ++ before) ++ '"' :: (body ++ (texts.flatMap (',' :: ·) ++ '\x7d' :: rest)) := by
      rw [Text.intercalate_cons]
      simp
    rw [htext]
    have hfuel : fs.length <
        (gap ++ before ++ '"' :: (body ++ (texts.flatMap (',' :: ·) ++ '\x7d' :: rest))).length := by
      simp only [List.length_append, List.length_cons]
      omega
    obtain ⟨next, hnext⟩ := fieldsFrom_flatMap hfs hfuel (setField p.1 p.2 []) hafter read rest
    refine ⟨next, (fieldsFrom_step ?_ ?_).trans hnext⟩
    · rw [skip_gap hfront (by decide)]
      simp
    · rw [skip_gap hfront (by decide)]
      exact hread

end Fields

/-! ### Values of each kind -/

section Values

variable {list object : Cursor → Result Value}

theorem isGap_of_isDigit {c : Char} (h : c.isDigit = true) : isGap c = false := by
  have hne : ∀ d : Char, d.isDigit = false → c ≠ d := by
    rintro d hd rfl
    rw [h] at hd
    cases hd
  simp only [isGap, hne ' ' rfl, hne '\t' rfl, hne '\n' rfl, hne '\r' rfl, decide_false, Bool.or_self]

theorem valueWith_of_isDigit {c : Char} (h : c.isDigit = true) (rest : List Char) (place : Place) :
    valueWith list object ⟨c :: rest, place⟩ = number false ⟨c :: rest, place⟩ := by
  unfold valueWith
  simp only [skip_cons (isGap_of_isDigit h)]
  split
  all_goals exact if_pos h

theorem valueWith_string (rest : List Char) (place : Place) :
    valueWith list object ⟨'"' :: rest, place⟩ =
      (stringBody (place.after '"') rest).map fun (s, cur) => (.string s, cur) := rfl

theorem valueWith_list (rest : List Char) (place : Place) :
    valueWith list object ⟨'[' :: rest, place⟩ = list ⟨rest, place.after '['⟩ := rfl

theorem valueWith_object (rest : List Char) (place : Place) :
    valueWith list object ⟨'\x7b' :: rest, place⟩ = object ⟨rest, place.after '\x7b'⟩ := rfl

theorem skip_skip (cur : Cursor) : cur.skip.skip = cur.skip := by
  obtain ⟨cs, place⟩ := cur
  induction cs generalizing place with
  | nil => rfl
  | cons c cs ih =>
    by_cases hc : isGap c = true
    · rw [skip_cons_gap hc]
      exact ih _
    · rw [skip_cons (Bool.eq_false_iff.2 hc), skip_cons (Bool.eq_false_iff.2 hc)]

theorem value_skip (depth : Nat) (cur : Cursor) : value depth cur.skip = value depth cur := by
  cases depth with
  | zero => simp [value, valueWith, skip_skip]
  | succ depth => simp [value, valueWith, skip_skip]

/-- The pieces of a string between quotes are read as the string. -/
theorem readsAs_pieces (depth : Nat) {s : String} {pieces : List (List Char)}
    (h : List.Forall₂ ReadsChar s.toList pieces) :
    ReadsAs (value depth) (.string s) ('"' :: (pieces.flatten ++ ['"'])) where
  opens := ⟨'"', _, rfl, rfl, by decide⟩
  reads place rest _ := by
    obtain ⟨next, hnext⟩ := stringBody_pieces h (place.after '"') rest
    refine ⟨next, value_of_valueWith fun list object => ?_⟩
    rw [List.cons_append, List.append_assoc, List.singleton_append, valueWith_string, hnext, String.ofList_toList]
    rfl

/-- A written number of at most 64 bits is read as itself. -/
theorem readsAs_integer (depth : Nat) {n : Nat} (hn : n ≤ Numeral.wordLimit) :
    ReadsAs (value depth) (.integer n) (Numeral.chars n) := by
  obtain ⟨c, tail, hcs, hc⟩ := Numeral.exists_chars_eq_cons n
  refine ⟨⟨c, tail, hcs, isGap_of_isDigit hc, ?_⟩, fun place rest hrest => ?_⟩
  · rintro rfl
    cases hc
  · obtain ⟨next, hnext⟩ := number_chars hn hrest false place
    refine ⟨next, value_of_valueWith fun list object => ?_⟩
    rw [← show wholeNumber false n ⟨rest, next⟩ = .ok (.integer n, ⟨rest, next⟩) from rfl, ← hnext, hcs,
      List.cons_append]
    exact valueWith_of_isDigit hc _ place

/-- A minus sign makes a number negative that is not zero and does not fall below `-2 ^ 63`. -/
theorem readsAs_negative (depth : Nat) {n : Nat} (hpos : 0 < n) (hn : n ≤ Numeral.signedRange) :
    ReadsAs (value depth) (.integer (-(n : Int))) ('-' :: Numeral.chars n) where
  opens := ⟨'-', _, rfl, rfl, by decide⟩
  reads place rest hrest := by
    have hword : n ≤ Numeral.wordLimit := Nat.le_trans hn (by decide)
    obtain ⟨next, hnext⟩ := number_chars hword hrest true (place.after '-')
    have hwhole : wholeNumber true n ⟨rest, next⟩ = .ok (.integer (-(n : Int)), ⟨rest, next⟩) := by
      simp [wholeNumber, Nat.ne_of_gt hpos, Nat.not_lt.2 hn]
    refine ⟨next, value_of_valueWith fun list object => ?_⟩
    rw [← hwhole, ← hnext]
    rfl

theorem readsAs_null (depth : Nat) : ReadsAs (value depth) .null "null".toList where
  opens := ⟨'n', _, rfl, rfl, by decide⟩
  reads place rest _ := ⟨_, value_of_valueWith fun list object => rfl⟩

theorem readsAs_bool (depth : Nat) (b : Bool) :
    ReadsAs (value depth) (.bool b) (if b then "true" else "false").toList := by
  cases b with
  | false => exact ⟨⟨'f', _, rfl, rfl, by decide⟩, fun _ _ _ => ⟨_, value_of_valueWith fun _ _ => rfl⟩⟩
  | true => exact ⟨⟨'t', _, rfl, rfl, by decide⟩, fun _ _ _ => ⟨_, value_of_valueWith fun _ _ => rfl⟩⟩

/-- Values between brackets are read as their list. -/
theorem readsAs_array {depth : Nat} {vs : List Value} {texts : List (List Char)} {gap : List Char}
    (h : List.Forall₂ (ReadsBetween (value depth)) vs texts) (hgap : Gap gap) :
    ReadsAs (value (depth + 1)) (.array vs) ('[' :: (gap ++ ([','].intercalate texts ++ [']']))) where
  opens := ⟨'[', _, rfl, rfl, by decide⟩
  reads place rest _ := by
    obtain ⟨next, hnext⟩ := items_intercalate h hgap (place.after '[') rest
    refine ⟨next, ?_⟩
    rw [List.cons_append, List.append_assoc, List.append_assoc, List.singleton_append, value, valueWith_list, hnext]
    rfl

/-- Fields between braces are read as an object. -/
theorem readsAs_object {depth : Nat} {fs : List (String × Value)} {texts : List (List Char)} {gap : List Char}
    (h : List.Forall₂ (ReadsField (value depth)) fs texts) (hgap : Gap gap) :
    ReadsAs (value (depth + 1)) (.object (gathered fs []))
      ('\x7b' :: (gap ++ ([','].intercalate texts ++ ['\x7d']))) where
  opens := ⟨'\x7b', _, rfl, rfl, by decide⟩
  reads place rest _ := by
    obtain ⟨next, hnext⟩ := fields_intercalate h hgap (place.after '\x7b') rest
    refine ⟨next, ?_⟩
    rw [List.cons_append, List.append_assoc, List.append_assoc, List.singleton_append, value, valueWith_object, hnext]
    rfl

/-- A text is read as the value that it stands for, whatever blanks stand around it. -/
theorem read_of_readsBetween {s : String} {v : Value} (h : ReadsBetween (value nestingLimit) v s.toList) :
    Value.read s = .ok v := by
  have hstops : Stops [] := nofun
  obtain ⟨gap, next, hgap, hnext⟩ := h.reads (value_skip nestingLimit) hstops .start
  rw [List.append_nil, List.append_nil] at hnext
  exact readAll_eq_ok_iff.2 ⟨_, hnext, skip_gap_nil hgap next⟩

end Values

end LineAtlas.Json
