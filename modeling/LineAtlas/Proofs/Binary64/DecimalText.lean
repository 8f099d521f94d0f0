import LineAtlas.Binary64.Literal
import LineAtlas.Proofs.Text.Numeral
import LineAtlas.Proofs.Text.Search
import Mathlib.Algebra.Field.Rat
import Mathlib.Algebra.Order.Ring.Rat
import Mathlib.Tactic.FieldSimp
import Mathlib.Tactic.NormNum

/-!
# Texts of decimals

The text of a decimal is a sign, digits with a point among, before or after them, and an exponent, of which all but one
digit can be left out (`DecimalText`).  Its value is a rational number, and it is read as a literal of that value
(`literal?_chars`, `value_literal`).  As a numeral with a sign are read those without a point and an exponent that are
in its bounds (`signed?_chars_iff`).
-/

namespace LineAtlas.Binary64

/-- The number that a literal stands for. -/
def Literal.value (l : Literal) : ℚ := (if l.negative then -1 else 1) * (l.digits * 10 ^ l.exponent)

/-- The exponent of a decimal, with its letter. -/
structure ExponentText where
  letter : Char
  sign : Numeral.Sign
  digits : List Char
  letter_eq : letter = 'e' ∨ letter = 'E'
  digits_ne_nil : digits ≠ []
  isDigit_of_mem : ∀ c ∈ digits, c.isDigit = true

def ExponentText.chars (e : ExponentText) : List Char := e.letter :: (e.sign.chars ++ e.digits)

def ExponentText.value (e : ExponentText) : ℤ := e.sign.unit * Numeral.value e.digits

/-- A decimal: a sign, the digits before the point, those after it where there is one, and the exponent where there is
one.  At least one digit stands before or after the point. -/
structure DecimalText where
  sign : Numeral.Sign
  whole : List Char
  fraction : Option (List Char)
  exponent : Option ExponentText
  isDigit_of_mem_whole : ∀ c ∈ whole, c.isDigit = true
  isDigit_of_mem_fraction : ∀ digits ∈ fraction, ∀ c ∈ digits, c.isDigit = true
  digits_ne_nil : whole ++ fraction.getD [] ≠ []

namespace DecimalText

/-- The digits after the point. -/
def fractionDigits (d : DecimalText) : List Char := d.fraction.getD []

/-- The point and the digits after it. -/
def fractionChars (d : DecimalText) : List Char := d.fraction.elim [] fun digits => '.' :: digits

/-- The power of ten that the exponent names. -/
def power (d : DecimalText) : ℤ := d.exponent.elim 0 ExponentText.value

/-- The exponent with its letter. -/
def exponentChars (d : DecimalText) : List Char := d.exponent.elim [] ExponentText.chars

/-- The characters of a decimal. -/
def chars (d : DecimalText) : List Char := d.sign.chars ++ (d.whole ++ (d.fractionChars ++ d.exponentChars))

/-- The number that a decimal stands for. -/
def value (d : DecimalText) : ℚ :=
  d.sign.unit * (Numeral.value d.whole + Numeral.value d.fractionDigits / 10 ^ d.fractionDigits.length) * 10 ^ d.power

/-- A decimal without a point and without an exponent. -/
def IsPlain (d : DecimalText) : Prop := d.fraction = none ∧ d.exponent = none

/-- What a decimal is read as. -/
def literal (d : DecimalText) : Literal :=
  ⟨d.sign = .minus, Numeral.value (d.whole ++ d.fractionDigits), d.power - d.fractionDigits.length⟩

end DecimalText

/-! ### Signs -/

variable {cs : List Char} {n : ℤ}

theorem exponent?_sign (sign : Numeral.Sign) (hcs : Numeral.Unsigned cs) :
    exponent? (sign.chars ++ cs) = (Numeral.natural? cs).map fun k : Nat => sign.unit * (k : ℤ) := by
  cases sign with
  | absent =>
    simp only [Numeral.Sign.chars, Numeral.Sign.unit, List.nil_append, one_mul]
    unfold exponent?
    split
    · exact absurd rfl (hcs '-' rfl).1
    · exact absurd rfl (hcs '+' rfl).2
    · rfl
  | plus =>
    simp only [Numeral.Sign.unit, one_mul]
    rfl
  | minus =>
    simp only [Numeral.Sign.chars, Numeral.Sign.unit, neg_one_mul, List.singleton_append, exponent?]
    cases Numeral.natural? cs <;> rfl

theorem literal?_sign (sign : Numeral.Sign) (hcs : Numeral.Unsigned cs) :
    literal? (sign.chars ++ cs) = unsignedLiteral? (sign = .minus) cs := by
  cases sign with
  | absent =>
    show literal? cs = _
    unfold literal?
    split
    · exact absurd rfl (hcs '-' rfl).1
    · exact absurd rfl (hcs '+' rfl).2
    · rfl
  | plus => rfl
  | minus => rfl

/-! ### Reading a decimal -/

namespace DecimalText

variable (d : DecimalText)

theorem fraction_cases :
    (d.fractionChars = [] ∧ d.fractionDigits = []) ∨ d.fractionChars = '.' :: d.fractionDigits := by
  unfold fractionChars fractionDigits
  cases d.fraction with
  | none => exact .inl ⟨rfl, rfl⟩
  | some digits => exact .inr rfl

theorem exponent_cases :
    (d.exponentChars = [] ∧ d.power = 0) ∨ ∃ e : ExponentText, d.exponentChars = e.chars ∧ d.power = e.value := by
  unfold exponentChars power
  cases d.exponent with
  | none => exact .inl ⟨rfl, rfl⟩
  | some e => exact .inr ⟨e, rfl, rfl⟩

theorem isDigit_of_mem_fractionDigits {c : Char} (hc : c ∈ d.fractionDigits) : c.isDigit = true := by
  unfold fractionDigits at hc
  cases hfraction : d.fraction with
  | none => simp [hfraction] at hc
  | some digits => exact d.isDigit_of_mem_fraction digits hfraction c (by simpa [hfraction] using hc)

/-- No characters but digits, signs, points and letters of exponents. -/
theorem mem_chars {c : Char} (hc : c ∈ d.chars) : c.isDigit = true ∨ c ∈ ['+', '-', '.', 'e', 'E'] := by
  have hsign {sign : Numeral.Sign} (hc : c ∈ sign.chars) : c ∈ ['+', '-', '.', 'e', 'E'] := by
    cases sign <;> simp [Numeral.Sign.chars] at hc <;> simp [hc]
  simp only [chars, List.mem_append] at hc
  rcases hc with hc | hc | hc | hc
  · exact .inr (hsign hc)
  · exact .inl (d.isDigit_of_mem_whole c hc)
  · rcases d.fraction_cases with ⟨hchars, -⟩ | hchars
    · simp [hchars] at hc
    · rcases List.mem_cons.1 (hchars ▸ hc) with rfl | hc
      · exact .inr (by decide)
      · exact .inl (d.isDigit_of_mem_fractionDigits hc)
  · rcases d.exponent_cases with ⟨hchars, -⟩ | ⟨e, hchars, -⟩
    · simp [hchars] at hc
    · simp only [hchars, ExponentText.chars, List.mem_cons, List.mem_append] at hc
      rcases hc with rfl | hc | hc
      · rcases e.letter_eq with hletter | hletter
        · exact .inr (by rw [hletter]; decide)
        · exact .inr (by rw [hletter]; decide)
      · exact .inr (hsign hc)
      · exact .inl (e.isDigit_of_mem c hc)

/-- The exponent begins with its letter. -/
theorem head?_exponentChars {c : Char} (hc : c ∈ d.exponentChars.head?) : c = 'e' ∨ c = 'E' := by
  rcases d.exponent_cases with ⟨hchars, -⟩ | ⟨e, hchars, -⟩
  · simp [hchars] at hc
  · rw [hchars] at hc
    cases hc
    exact e.letter_eq

/-- What follows the digits before the point begins with the point or the letter. -/
theorem head?_rest {c : Char} (hc : c ∈ (d.fractionChars ++ d.exponentChars).head?) : c = '.' ∨ c = 'e' ∨ c = 'E' := by
  rcases d.fraction_cases with ⟨hchars, -⟩ | hchars
  · rw [hchars] at hc
    exact .inr (d.head?_exponentChars hc)
  · rw [hchars] at hc
    cases hc
    exact .inl rfl

theorem isDigit_of_head?_rest {c : Char} (hc : c ∈ (d.fractionChars ++ d.exponentChars).head?) : c.isDigit = false := by
  rcases d.head?_rest hc with rfl | rfl | rfl
  · rfl
  · rfl
  · rfl

theorem unsigned : Numeral.Unsigned (d.whole ++ (d.fractionChars ++ d.exponentChars)) := by
  intro c hc
  cases hwhole : d.whole with
  | nil =>
    rw [hwhole, List.nil_append] at hc
    rcases d.head?_rest hc with rfl | rfl | rfl
    · decide
    · decide
    · decide
  | cons first digits =>
    have hfirst := d.isDigit_of_mem_whole first (hwhole ▸ List.mem_cons_self)
    rw [hwhole] at hc
    cases hc
    exact ⟨Numeral.ne_of_isDigit hfirst rfl, Numeral.ne_of_isDigit hfirst rfl⟩

theorem exponentPart?_exponentChars : exponentPart? d.exponentChars = some d.power := by
  rcases d.exponent_cases with ⟨hchars, hpower⟩ | ⟨e, hchars, hpower⟩
  · rw [hchars, hpower]
    rfl
  · have hletter : (decide (e.letter = 'e') || decide (e.letter = 'E')) = true := by simpa using e.letter_eq
    have hdigits : Numeral.natural? e.digits = some (Numeral.value e.digits) :=
      Numeral.natural?_eq_some_iff.2 ⟨e.digits_ne_nil, e.isDigit_of_mem, rfl⟩
    rw [hchars, hpower, ExponentText.chars, exponentPart?, if_pos hletter,
      exponent?_sign _ (Numeral.unsigned_of_isDigit e.isDigit_of_mem), hdigits]
    rfl

theorem unsignedLiteral?_chars (negative : Bool) :
    unsignedLiteral? negative (d.whole ++ (d.fractionChars ++ d.exponentChars)) =
      some ⟨negative, Numeral.value (d.whole ++ d.fractionDigits), d.power - d.fractionDigits.length⟩ := by
  have hwhole : spanDigits (d.whole ++ (d.fractionChars ++ d.exponentChars)) =
      (d.whole, d.fractionChars ++ d.exponentChars) :=
    Text.span_append d.isDigit_of_mem_whole fun _ => d.isDigit_of_head?_rest
  have hdigits : (d.whole.isEmpty && d.fractionDigits.isEmpty) = false := by
    have hne := d.digits_ne_nil
    simpa [fractionDigits, List.append_eq_nil_iff, List.isEmpty_iff] using hne
  have hexponent := d.exponentPart?_exponentChars
  unfold unsignedLiteral?
  simp only [hwhole]
  split
  · rename_i more hpoint
    rcases d.fraction_cases with ⟨hchars, -⟩ | hchars
    · -- an exponent does not begin with a point
      rw [hchars, List.nil_append] at hpoint
      have hhead : '.' ∈ d.exponentChars.head? := congrArg List.head? hpoint
      rcases d.head?_exponentChars hhead with hletter | hletter
      · cases hletter
      · cases hletter
    · rw [hchars] at hpoint
      cases hpoint
      have hfraction : spanDigits (d.fractionDigits ++ d.exponentChars) = (d.fractionDigits, d.exponentChars) := by
        refine Text.span_append (fun c hc => d.isDigit_of_mem_fractionDigits hc) fun c hc => ?_
        rcases d.head?_exponentChars hc with rfl | rfl
        · rfl
        · rfl
      simp [hfraction, hdigits, hexponent]
  · rename_i hpoint
    rcases d.fraction_cases with ⟨hchars, hnone⟩ | hchars
    · have hne : d.whole ≠ [] := by simpa [hnone] using hdigits
      simp [hchars, hnone, hne, hexponent]
    · exact absurd (congrArg (· ++ d.exponentChars) hchars) (hpoint _)

/-- A decimal is read as its literal. -/
theorem literal?_chars : literal? d.chars = some d.literal := by
  rw [chars, literal?_sign _ d.unsigned, d.unsignedLiteral?_chars]
  rfl

theorem value_literal : d.literal.value = d.value := by
  have hten : (10 : ℚ) ≠ 0 := by norm_num
  have hsign : (if d.literal.negative then -1 else 1 : ℚ) = d.sign.unit := by
    unfold literal
    cases d.sign <;> simp [Numeral.Sign.unit]
  rw [Literal.value, hsign, value, mul_assoc]
  simp only [literal, Numeral.value_append, zpow_sub₀ hten, zpow_natCast]
  push_cast
  field_simp

theorem rest_eq_nil_iff : d.fractionChars ++ d.exponentChars = [] ↔ d.IsPlain := by
  unfold fractionChars exponentChars IsPlain
  cases d.fraction <;> cases d.exponent <;> simp [ExponentText.chars]

theorem value_of_isPlain (h : d.IsPlain) : d.value = (d.sign.unit * Numeral.value d.whole : ℤ) := by
  obtain ⟨hfraction, hexponent⟩ := h
  have hdigits : d.fractionDigits = [] := by simp [fractionDigits, hfraction]
  have hpower : d.power = 0 := by simp [power, hexponent]
  rw [value, hdigits, hpower]
  simp [Numeral.value]

/-- All that follows a sign are digits where the decimal is plain. -/
theorem natural?_chars_iff {k : Nat} :
    Numeral.natural? (d.whole ++ (d.fractionChars ++ d.exponentChars)) = some k ↔
      d.IsPlain ∧ Numeral.value d.whole = k := by
  rw [Numeral.natural?_eq_some_iff]
  constructor
  · rintro ⟨-, hdigits, hvalue⟩
    have hrest : d.fractionChars ++ d.exponentChars = [] := by
      by_contra hne
      obtain ⟨c, cs, hcs⟩ := List.exists_cons_of_ne_nil hne
      have hdigit := hdigits c (by simp [hcs])
      rw [d.isDigit_of_head?_rest (by simp [hcs])] at hdigit
      cases hdigit
    rw [hrest, List.append_nil] at hvalue
    exact ⟨d.rest_eq_nil_iff.1 hrest, hvalue⟩
  · rintro ⟨hplain, hvalue⟩
    have hne := d.digits_ne_nil
    rw [hplain.1, Option.getD_none, List.append_nil] at hne
    rw [d.rest_eq_nil_iff.2 hplain, List.append_nil]
    exact ⟨hne, d.isDigit_of_mem_whole, hvalue⟩

/-- A decimal is read as a numeral with a sign where it is plain and in bounds. -/
theorem signed?_chars_iff : Numeral.signed? d.chars = some n ↔
    d.IsPlain ∧ d.value = n ∧ -(Numeral.signedRange : ℤ) ≤ n ∧ n < Numeral.signedRange := by
  rw [chars, Numeral.signed?_sign _ d.unsigned, ← and_assoc (b := d.value = n)]
  refine and_congr_left fun _ => ?_
  simp only [natural?_chars_iff]
  constructor
  · rintro ⟨k, ⟨hplain, rfl⟩, hn⟩
    exact ⟨hplain, by rw [d.value_of_isPlain hplain, hn]⟩
  · rintro ⟨hplain, hn⟩
    rw [d.value_of_isPlain hplain] at hn
    exact ⟨_, ⟨hplain, rfl⟩, by exact_mod_cast hn⟩

end DecimalText

end LineAtlas.Binary64
