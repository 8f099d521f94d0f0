import LineAtlas.CharMap.Literal
import LineAtlas.Proofs.Outcome
import LineAtlas.Proofs.Text.Numeral
import LineAtlas.Proofs.Text.Pieces
import LineAtlas.Proofs.Text.Search

/-!
# Spellings of character maps

A slot can be spelled in several ways (`Slot.Spelling`), with blanks around it (`Element`), and the literal of a line
has its slots between brackets, with commas between them and at most one comma after the last (`Between`).  The slots
are read as they were spelled: one by one (`Slot.read_of_spelling`), between the brackets (`read_of_between`), and in
any literal of a line (`read_of_spelled`).
-/

namespace LineAtlas

/-- The texts that stand for a slot: nothing or one of two words for what the slot before says, a negative number for
no mapping, and the number of a mapping with or without a plus sign and zeros in front. -/
inductive Slot.Spelling : Slot → List Char → Prop
  | nothing : Spelling same []
  | null : Spelling same "null".toList
  | undefined : Spelling same "undefined".toList
  | negative {digits : List Char} (hne : digits ≠ []) (hdigits : ∀ c ∈ digits, c.isDigit = true)
      (hpos : 0 < Numeral.value digits) (hle : Numeral.value digits ≤ Numeral.signedRange) :
      Spelling unmapped ('-' :: digits)
  | number {sign : List Char} (hsign : sign = [] ∨ sign = ['+']) (zeros : Nat) {id : Nat}
      (hid : id < Numeral.signedRange) :
      Spelling (mapping id) (sign ++ (List.replicate zeros '0' ++ Numeral.chars id))

namespace CharMap

/-- What stands between two commas: a spelling of a slot with blanks around it. -/
structure Element where
  slot : Slot
  before : List Char
  token : List Char
  after : List Char
  spelling : slot.Spelling token
  before_blank : ∀ c ∈ before, Text.isBlank c = true
  after_blank : ∀ c ∈ after, Text.isBlank c = true

/-- The characters of an element. -/
def Element.chars (e : Element) : List Char := e.before ++ (e.token ++ e.after)

/-- What can stand between the brackets for some slots.  There are no commas where there are no slots; a comma after
the last slot can be left out unless the slot is spelled as nothing. -/
inductive Between : List Slot → List Char → Prop
  | blank {blanks : List Char} (hblanks : ∀ c ∈ blanks, Text.isBlank c = true) : Between [] blanks
  | bare {elements : List Element} (hne : elements ≠ []) (hlast : ∀ e ∈ elements.getLast?, e.token ≠ []) :
      Between (elements.map Element.slot) ([','].intercalate (elements.map Element.chars))
  | closed {elements : List Element} (hne : elements ≠ []) {blanks : List Char}
      (hblanks : ∀ c ∈ blanks, Text.isBlank c = true) :
      Between (elements.map Element.slot) ([','].intercalate (elements.map Element.chars) ++ ',' :: blanks)

/-- The texts that stand for a character map: its slots between brackets, with blanks around all. -/
def Spelled (m : CharMap) (literal : String) : Prop :=
  ∃ before inner after, (∀ c ∈ before, Text.isBlank c = true) ∧ (∀ c ∈ after, Text.isBlank c = true) ∧
    Between m.slots inner ∧ literal.toList = before ++ ('[' :: (inner ++ [']'])) ++ after

end CharMap

namespace Slot

variable {slot : Slot} {token : List Char}

/-- What is neither nothing nor one of the two words is read as a number. -/
theorem read_number (h : token ∉ [[], "null".toList, "undefined".toList]) :
    read token = ((Numeral.signed? token).or (whole? token)).elim (.error (.badSlot (String.ofList token)))
      fun n => .ok (ofInt n) := by
  have hskip : ¬ (token = [] || token = "null".toList || token = "undefined".toList) = true := by
    simp only [List.mem_cons, List.not_mem_nil, or_false] at h
    simpa only [Bool.or_eq_true, decide_eq_true_eq, or_assoc] using h
  unfold read
  rw [if_neg hskip]
  cases (Numeral.signed? token).or (whole? token) <;> rfl

theorem read_of_signed? {n : Int} (h : Numeral.signed? token = some n) : read token = .ok (ofInt n) := by
  rw [read_number, h]
  · rfl
  · intro hmem
    simp only [List.mem_cons, List.not_mem_nil, or_false] at hmem
    rcases hmem with rfl | rfl | rfl
    · cases h
    · cases h
    · cases h

theorem ofInt_natCast (id : Nat) : ofInt id = mapping id := by
  unfold ofInt
  rw [if_neg (Int.not_lt.2 (Int.natCast_nonneg id)), Int.toNat_natCast]

theorem ofInt_of_neg {n : Int} (h : n < 0) : ofInt n = unmapped := if_pos h

/-- A spelling of a slot is read as the slot. -/
theorem read_of_spelling (h : slot.Spelling token) : read token = .ok slot := by
  cases h with
  | nothing => rfl
  | null => rfl
  | undefined => rfl
  | negative hne hdigits hpos hle =>
    have hnatural := Numeral.natural?_eq_some_iff.2 ⟨hne, hdigits, rfl⟩
    have hsigned := Numeral.signed?_of_natural? .minus hnatural (Int.neg_one_mul _) (by omega) (by omega)
    exact (read_of_signed? hsigned).trans (by rw [ofInt_of_neg (by omega)])
  | @number _ hsign zeros id hid =>
    have hread (sign : Numeral.Sign) (hunit : sign.unit = 1) :
        read (sign.chars ++ (List.replicate zeros '0' ++ Numeral.chars id)) = .ok (mapping id) := by
      have hnatural := Numeral.natural?_zeros_append zeros id
      have hvalue : sign.unit * (id : Int) = id := by rw [hunit, Int.one_mul]
      rw [read_of_signed? (Numeral.signed?_of_natural? sign hnatural hvalue (by omega) (by omega)), ofInt_natCast]
    obtain rfl | rfl := hsign
    · exact hread .absent rfl
    · exact hread .plus rfl

theorem plain_of_all {cs : List Char} (h : (cs.all fun c => !Text.isBlank c && c != ',') = true) {c : Char}
    (hc : c ∈ cs) : Text.isBlank c = false ∧ c ≠ ',' := by
  simpa using List.all_eq_true.1 h c hc

/-- No character of a spelling is a blank or a comma. -/
theorem mem_of_spelling (h : slot.Spelling token) {c : Char} (hc : c ∈ token) : Text.isBlank c = false ∧ c ≠ ',' := by
  have hofDigit {c : Char} (hdigit : c.isDigit = true) : Text.isBlank c = false ∧ c ≠ ',' := by
    refine ⟨Text.isBlank_of_isDigit hdigit, ?_⟩
    rintro rfl
    cases hdigit
  cases h with
  | nothing => cases hc
  | null => exact plain_of_all (by decide) hc
  | undefined => exact plain_of_all (by decide) hc
  | negative hne hdigits hpos hle =>
    obtain rfl | hc := List.mem_cons.1 hc
    · decide
    · exact hofDigit (hdigits c hc)
  | number hsign zeros hid =>
    obtain hc | hc := List.mem_append.1 hc
    · obtain rfl | rfl := hsign
      · cases hc
      · rw [List.mem_singleton.1 hc]
        decide
    · exact hofDigit ((Numeral.natural?_eq_some_iff.1 (Numeral.natural?_zeros_append zeros _)).2.1 c hc)

end Slot

namespace CharMap

variable {slots : List Slot} {elements : List Element} {inner : List Char}

/-! ### Elements -/

theorem comma_notMem_of_blank {cs : List Char} (h : ∀ c ∈ cs, Text.isBlank c = true) : ',' ∉ cs := by
  intro hc
  cases h ',' hc

theorem Element.trimChars_chars (e : Element) : Text.trimChars e.chars = e.token := by
  rw [Element.chars, Text.trimChars_blanks_append e.before_blank, Text.trimChars_append_blanks e.after_blank]
  exact Text.trimChars_eq_self_of_forall fun c hc => (Slot.mem_of_spelling e.spelling hc).1

theorem Element.comma_notMem_chars (e : Element) : ',' ∉ e.chars := by
  rw [Element.chars, List.mem_append, List.mem_append, not_or, not_or]
  exact ⟨comma_notMem_of_blank e.before_blank, fun hc => (Slot.mem_of_spelling e.spelling hc).2 rfl,
    comma_notMem_of_blank e.after_blank⟩

private theorem splitAt_elements (hne : elements ≠ []) :
    Text.splitAt ',' ([','].intercalate (elements.map Element.chars)) = elements.map Element.chars := by
  refine Text.splitAt_intercalate (mt List.map_eq_nil_iff.1 hne) fun piece hpiece => ?_
  obtain ⟨e, -, rfl⟩ := List.mem_map.1 hpiece
  exact e.comma_notMem_chars

private theorem map_trimChars_elements (elements : List Element) :
    (elements.map Element.chars).map Text.trimChars = elements.map Element.token := by
  rw [List.map_map]
  exact List.map_congr_left fun e _ => e.trimChars_chars

/-! ### Between the brackets -/

/-- The pieces of what stands between the brackets are spellings of the slots. -/
theorem pieces_of_between (h : Between slots inner) (hne : slots ≠ []) :
    List.Forall₂ Slot.Spelling slots (pieces inner) := by
  have hspelled (elements : List Element) :
      List.Forall₂ Slot.Spelling (elements.map Element.slot) (elements.map Element.token) := by
    rw [List.forall₂_map_left_iff, List.forall₂_map_right_iff, List.forall₂_same]
    exact fun e _ => e.spelling
  cases h with
  | blank => exact absurd rfl hne
  | @bare elements helements hlast =>
    have hpieces : pieces ([','].intercalate (elements.map Element.chars)) = elements.map Element.token := by
      unfold pieces
      dsimp only
      rw [splitAt_elements helements, map_trimChars_elements, if_neg]
      rw [Bool.and_eq_true, not_and_or, decide_eq_true_eq, decide_eq_true_eq, List.getLast?_map]
      refine .inr fun hnil => ?_
      obtain ⟨e, he, htoken⟩ := Option.map_eq_some_iff.1 hnil
      exact hlast e he htoken
    rw [hpieces]
    exact hspelled elements
  | @closed elements helements blanks hblanks =>
    -- the comma after the last slot makes a blank piece, which is dropped again
    have hchars : elements.map Element.chars ≠ [] := mt List.map_eq_nil_iff.1 helements
    have hpieces : pieces ([','].intercalate (elements.map Element.chars) ++ ',' :: blanks) =
        elements.map Element.token := by
      have hsplit : Text.splitAt ',' ([','].intercalate (elements.map Element.chars ++ [blanks])) =
          elements.map Element.chars ++ [blanks] := by
        refine Text.splitAt_intercalate (by simp) fun piece hpiece => ?_
        obtain hpiece | hpiece := List.mem_append.1 hpiece
        · obtain ⟨e, -, rfl⟩ := List.mem_map.1 hpiece
          exact e.comma_notMem_chars
        · rw [List.mem_singleton.1 hpiece]
          exact comma_notMem_of_blank hblanks
      have hlength : 0 < elements.length := List.length_pos_iff.2 helements
      unfold pieces
      dsimp only
      rw [← Text.intercalate_concat hchars, hsplit, List.map_append, map_trimChars_elements, List.map_singleton,
        Text.trimChars_eq_nil_iff.2 hblanks, List.getLast?_concat, if_pos, List.dropLast_concat]
      rw [List.length_append, List.length_map, Bool.and_eq_true, decide_eq_true_eq, decide_eq_true_eq]
      exact ⟨by simp only [List.length_singleton]; omega, rfl⟩
    rw [hpieces]
    exact hspelled elements

theorem trimChars_ne_nil_of_between (h : Between slots inner) (hne : slots ≠ []) : Text.trimChars inner ≠ [] := by
  intro hnil
  have hblank := Text.trimChars_eq_nil_iff.1 hnil
  cases h with
  | blank => exact hne rfl
  | @bare elements helements hlast =>
    -- the last slot is not spelled as nothing
    have he := List.getLast?_eq_some_getLast helements
    obtain ⟨c, hc⟩ := List.exists_mem_of_ne_nil _ (hlast _ he)
    have hmem : c ∈ (elements.getLast helements).chars :=
      List.mem_append_right _ (List.mem_append_left _ hc)
    have hc' := hblank c (Text.mem_intercalate_of_mem (List.mem_map_of_mem (List.getLast_mem helements)) hmem)
    rw [(Slot.mem_of_spelling (elements.getLast helements).spelling hc).1] at hc'
    cases hc'
  | closed => exact comma_notMem_of_blank hblank (List.mem_append_right _ List.mem_cons_self)

theorem inside?_brackets (cs : List Char) : inside? ('[' :: (cs ++ [']'])) = some cs := by
  show (if (cs ++ [']']).getLast? = some ']' then some (cs ++ [']']).dropLast else none) = some cs
  rw [if_pos List.getLast?_concat, List.dropLast_concat]

/-- What stands between the brackets decides which slots are read. -/
theorem read_of_between {literal : String} (hinside : inside? (Text.trimChars literal.toList) = some inner)
    (h : Between slots inner) : read literal = .ok ⟨slots⟩ := by
  unfold read
  rw [hinside]
  dsimp only
  by_cases hne : slots = []
  · subst hne
    have hnil : Text.trimChars inner = [] := by
      generalize hslots : ([] : List Slot) = slots at h
      cases h with
      | blank hblanks => exact Text.trimChars_eq_nil_iff.2 hblanks
      | bare helements => exact absurd (List.map_eq_nil_iff.1 hslots.symm) helements
      | closed helements => exact absurd (List.map_eq_nil_iff.1 hslots.symm) helements
    rw [hnil]
    rfl
  · have hslots : (pieces inner).mapM Slot.read = .ok slots := by
      rw [Except.mapM_eq_ok_iff]
      exact (pieces_of_between h hne).flip.imp fun token slot hspelling => Slot.read_of_spelling hspelling
    rw [List.isEmpty_eq_false_iff.2 (trimChars_ne_nil_of_between h hne), if_neg Bool.false_ne_true, hslots]
    rfl

/-- Every spelling of a character map is read as the character map. -/
theorem read_of_spelled {m : CharMap} {literal : String} (h : m.Spelled literal) : read literal = .ok m := by
  obtain ⟨before, inner, after, hbefore, hafter, hbetween, hliteral⟩ := h
  refine read_of_between ?_ hbetween
  rw [hliteral, Text.trimChars_append_blanks hafter, Text.trimChars_blanks_append hbefore,
    Text.trimChars_enclosed (by decide) (by decide), inside?_brackets]

/-- A number with a plus sign and zeros in front, the least number of all, a word, and nothing before a last comma. -/
def spelledSample : List Element :=
  [{ slot := .mapping 7, before := [' '], token := ['+'] ++ (List.replicate 2 '0' ++ Numeral.chars 7), after := []
     spelling := .number (.inr rfl) 2 (by decide)
     before_blank := List.all_eq_true.1 rfl, after_blank := List.all_eq_true.1 rfl },
   { slot := .unmapped, before := ['\u00a0'], token := '-' :: "9223372036854775808".toList, after := []
     spelling := .negative (by decide) (List.all_eq_true.1 rfl) (by decide) (by decide)
     before_blank := List.all_eq_true.1 rfl, after_blank := List.all_eq_true.1 rfl },
   { slot := .same, before := ['\t'], token := "undefined".toList, after := [' ']
     spelling := .undefined
     before_blank := List.all_eq_true.1 rfl, after_blank := List.all_eq_true.1 rfl },
   { slot := .same, before := [' '], token := [], after := []
     spelling := .nothing
     before_blank := List.all_eq_true.1 rfl, after_blank := List.all_eq_true.1 rfl }]

theorem read_of_spelled_sample :
    (⟨[.mapping 7, .unmapped, .same, .same]⟩ : CharMap).Spelled
        "\u2003[ +007,\u00a0-9223372036854775808,\tundefined , ,\n]\u0085" ∧
      read "\u2003[ +007,\u00a0-9223372036854775808,\tundefined , ,\n]\u0085" =
        .ok ⟨[.mapping 7, .unmapped, .same, .same]⟩ := by
  have hbetween := @Between.closed spelledSample (by decide) ['\n'] (List.all_eq_true.1 rfl)
  have hspelled : (⟨[.mapping 7, .unmapped, .same, .same]⟩ : CharMap).Spelled
      "\u2003[ +007,\u00a0-9223372036854775808,\tundefined , ,\n]\u0085" :=
    ⟨['\u2003'], _, ['\u0085'], List.all_eq_true.1 rfl, List.all_eq_true.1 rfl, hbetween, by decide⟩
  exact ⟨hspelled, read_of_spelled hspelled⟩

end CharMap

end LineAtlas
