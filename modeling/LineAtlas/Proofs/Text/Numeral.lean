import LineAtlas.Text.Numeral
import Mathlib.Algebra.Group.Nat.Defs

/-!
# Written numerals

The digits of a number are read as that number: by `value` whatever it is, by the bounded readers within their bounds
(`signed?_sign`).  Only zero is written with a zero in front.
-/

namespace LineAtlas.Numeral

/-- What can stand in front of the digits of a number. -/
inductive Sign where
  | absent
  | plus
  | minus
  deriving DecidableEq, Repr

/-- A sign as text. -/
def Sign.chars : Sign → List Char
  | absent => []
  | plus => ['+']
  | minus => ['-']

/-- What a sign makes of one. -/
def Sign.unit : Sign → Int
  | absent | plus => 1
  | minus => -1

/-- A text whose first character is no sign. -/
def Unsigned (cs : List Char) : Prop := ∀ c ∈ cs.head?, c ≠ '-' ∧ c ≠ '+'

variable {n limit : Nat}

theorem isDigit_of_mem_chars {c : Char} (h : c ∈ chars n) : c.isDigit = true :=
  Nat.isDigit_of_mem_toDigits (by decide) (by decide) h

theorem chars_ne_nil (n : Nat) : chars n ≠ [] := Nat.toDigits_ne_nil

theorem value_chars (n : Nat) : value (chars n) = n := Nat.ofDigitChars_ten_toDigits

theorem natural?_eq_some_iff {cs : List Char} :
    natural? cs = some n ↔ cs ≠ [] ∧ (∀ c ∈ cs, c.isDigit = true) ∧ value cs = n := by
  unfold natural?
  rw [Option.ite_none_left_eq_some, Option.some.injEq, Bool.or_eq_true, not_or, List.isEmpty_iff, Bool.not_eq_true',
    Bool.not_eq_false, List.all_eq_true, and_assoc]

theorem value_append (xs ys : List Char) : value (xs ++ ys) = 10 ^ ys.length * value xs + value ys :=
  (Nat.ofDigitChars_append 0).trans Nat.ofDigitChars_eq_ofDigitChars_zero

/-- Zeros in front do not count. -/
theorem value_zeros_append (zeros : Nat) (cs : List Char) : value (List.replicate zeros '0' ++ cs) = value cs := by
  induction zeros with
  | zero => rfl
  | succ zeros ih => exact ih

theorem natural?_zeros_append (zeros n : Nat) : natural? (List.replicate zeros '0' ++ chars n) = some n := by
  refine natural?_eq_some_iff.2 ⟨List.append_ne_nil_of_right_ne_nil _ (chars_ne_nil n), fun c hc => ?_,
    (value_zeros_append zeros (chars n)).trans (value_chars n)⟩
  obtain hzero | hc := List.mem_append.1 hc
  · rw [List.eq_of_mem_replicate hzero]
    rfl
  · exact isDigit_of_mem_chars hc

/-- A numeral has no sign in front. -/
theorem exists_chars_eq_cons (n : Nat) : ∃ c cs, chars n = c :: cs ∧ c.isDigit = true := by
  obtain ⟨c, cs, hcs⟩ := List.exists_cons_of_ne_nil (chars_ne_nil n)
  exact ⟨c, cs, hcs, isDigit_of_mem_chars (hcs ▸ List.mem_cons_self)⟩

/-- A number that is not zero has no zero in front. -/
theorem exists_chars_eq_cons_of_pos (h : 0 < n) : ∃ c cs, chars n = c :: cs ∧ c.isDigit = true ∧ c ≠ '0' := by
  induction n using Nat.strongRecOn with
  | ind n ih =>
    by_cases hsmall : n < 10
    · have hchars : chars n = [n.digitChar] := Nat.toDigits_of_lt_base hsmall
      have hzero : ∀ k : Fin 10, 0 < k.val → k.val.digitChar ≠ '0' := by decide
      refine ⟨n.digitChar, [], hchars, ?_, hzero ⟨n, hsmall⟩ h⟩
      exact isDigit_of_mem_chars (hchars ▸ List.mem_singleton_self _)
    · have hchars : chars n = chars (n / 10) ++ [(n % 10).digitChar] :=
        Nat.toDigits_of_base_le (by decide) (Nat.le_of_not_lt hsmall)
      obtain ⟨c, cs, hcs, hc⟩ := ih (n / 10) (by omega) (by omega)
      exact ⟨c, cs ++ [(n % 10).digitChar], by rw [hchars, hcs, List.cons_append], hc⟩

theorem unsigned?_chars (h : n ≤ limit) : unsigned? limit (chars n) = some n := by
  obtain ⟨c, cs, hchars, hc⟩ := exists_chars_eq_cons n
  have hplus : c ≠ '+' := by
    rintro rfl
    cases hc
  have hnatural : natural? (c :: cs) = some n := by
    rw [← hchars]
    exact natural?_zeros_append 0 n
  rw [hchars]
  simp [unsigned?, hplus, hnatural, Option.filter_some, h]

theorem toList_ofInt_natCast (n : Nat) : (ofInt n).toList = chars n := by
  rw [ofInt, if_neg (Int.not_lt.2 (Int.natCast_nonneg n)), Int.natAbs_natCast, ofNat, String.toList_ofList]

theorem toList_ofInt_neg (h : 0 < n) : (ofInt (-(n : Int))).toList = '-' :: chars n := by
  rw [ofInt, if_pos (by omega), Int.natAbs_neg, Int.natAbs_natCast]
  simp [ofNat]

/-! ### Signs -/

theorem ne_of_isDigit {c d : Char} (hc : c.isDigit = true) (hd : d.isDigit = false) : c ≠ d := by
  rintro rfl
  exact Bool.false_ne_true (hd.symm.trans hc)

theorem unsigned_of_isDigit {digits : List Char} (h : ∀ c ∈ digits, c.isDigit = true) : Unsigned digits := by
  intro c hc
  have hdigit := h c (List.mem_of_mem_head? hc)
  exact ⟨ne_of_isDigit hdigit rfl, ne_of_isDigit hdigit rfl⟩

/-- A numeral with a sign is read where its number is in bounds. -/
theorem signed?_sign {cs : List Char} {k : Int} (sign : Sign) (hcs : Unsigned cs) :
    signed? (sign.chars ++ cs) = some k ↔
      (∃ n : Nat, natural? cs = some n ∧ sign.unit * n = k) ∧ -(signedRange : Int) ≤ k ∧ k < signedRange := by
  have hplus : ((natural? cs).filter (· < signedRange)).map Int.ofNat = some k ↔
      (∃ n : Nat, natural? cs = some n ∧ 1 * (n : Int) = k) ∧ -(signedRange : Int) ≤ k ∧ k < signedRange := by
    cases natural? cs with
    | none => simp
    | some n =>
      simp [Option.filter_some]
      omega
  cases sign with
  | absent =>
    refine Iff.trans (Eq.to_iff ?_) hplus
    simp only [Sign.chars, List.nil_append]
    unfold signed?
    split
    · exact absurd rfl (hcs '-' rfl).1
    · exact absurd rfl (hcs '+' rfl).2
    · rfl
  | plus => exact hplus
  | minus =>
    have hrange : 0 < signedRange := by decide
    simp only [Sign.chars, Sign.unit, List.singleton_append, signed?]
    cases natural? cs with
    | none => simp
    | some n =>
      by_cases hn : n ≤ signedRange
      · simp [Option.filter_some, hn]
        omega
      · simp [Option.filter_some, hn]
        omega

theorem signed?_of_natural? {digits : List Char} {k : Int} (sign : Sign) (h : natural? digits = some n)
    (hk : sign.unit * n = k) (hlow : -(signedRange : Int) ≤ k) (hhigh : k < signedRange) :
    signed? (sign.chars ++ digits) = some k :=
  (signed?_sign sign (unsigned_of_isDigit (natural?_eq_some_iff.1 h).2.1)).2 ⟨⟨n, h, hk⟩, hlow, hhigh⟩

end LineAtlas.Numeral
