import LineAtlas.Binary64.Basic
import Mathlib.Algebra.Order.Field.Power
import Mathlib.Algebra.Order.Floor.Semifield
import Mathlib.Data.Int.Log
import Mathlib.Data.Rat.Floor
import Mathlib.Tactic.FieldSimp
import Mathlib.Tactic.Linarith
import Mathlib.Tactic.NormNum
import Mathlib.Tactic.Positivity
import Mathlib.Tactic.Ring

/-!
# Nearest binary64 values

About a number `q` the binary64 values are the multiples of `gap q`, a power of two that has 53 bits of room for `q`, or
that of the smallest values.  `Nearest q r` says that `r` is the one of them that is nearest to `q`, and of two equally
near ones the even multiple.  A number has one nearest value (`Nearest.unique`).

The key facts: `ofRatio` and `ofDecimal` give the magnitude nearest to their number (`nearest_of_ofRatio`,
`nearest_of_ofDecimal`), and none only where the number is large (`le_of_ofRatio`, `le_of_ofDecimal`).
-/

namespace LineAtlas.Binary64

/-- The distance of the binary64 values about a number. -/
def gap (q : ℚ) : ℚ := 2 ^ max minExponent (Int.log 2 |q| - 52)

/-- `r` is the binary64 value nearest to `q`, as if there were no largest one. -/
def Nearest (q r : ℚ) : Prop :=
  ∃ k : ℤ, r = k * gap q ∧ |q - r| ≤ gap q / 2 ∧ (|q - r| = gap q / 2 → Even k)

/-- The number that a magnitude is. -/
def Magnitude.value (a : Magnitude) : ℚ := a.mantissa * 2 ^ a.exponent

variable {q r : ℚ} {num den : Nat} {a : Magnitude}

/-! ### One nearest value -/

theorem zpow_eq_div {b : ℚ} (hb : b ≠ 0) (e : ℤ) : b ^ e = b ^ e.toNat / b ^ (-e).toNat := by
  conv_lhs => rw [← Int.toNat_sub_toNat_neg e, zpow_sub₀ hb, zpow_natCast, zpow_natCast]

theorem gap_pos (q : ℚ) : 0 < gap q := by
  unfold gap
  positivity

theorem gap_neg (q : ℚ) : gap (-q) = gap q := by
  unfold gap
  rw [abs_neg]

theorem Nearest.neg (h : Nearest q r) : Nearest (-q) (-r) := by
  obtain ⟨k, hr, hnear, heven⟩ := h
  have habs : |-q - -r| = |q - r| := by rw [neg_sub_neg, abs_sub_comm]
  refine ⟨-k, ?_, ?_, ?_⟩
  · rw [hr, gap_neg, Int.cast_neg, neg_mul]
  · rwa [habs, gap_neg]
  · rw [habs, gap_neg, even_neg]
    exact heven

/-- Of two multiples that are both within half a step, and even where they are at half a step, none is the smaller. -/
private theorem not_lt_of_near {step : ℚ} {k l : ℤ} (hstep : 0 < step)
    (hk : |q - k * step| ≤ step / 2) (hkeven : |q - k * step| = step / 2 → Even k)
    (hl : |q - l * step| ≤ step / 2) (hleven : |q - l * step| = step / 2 → Even l) : ¬ k < l := by
  intro hlt
  have hnext : (k : ℚ) + 1 ≤ l := by exact_mod_cast hlt
  have hapart : k * step + step ≤ l * step := by nlinarith
  obtain ⟨-, hkabove⟩ := abs_le.1 hk
  obtain ⟨hlbelow, -⟩ := abs_le.1 hl
  -- the number is in the middle of the two, which are neighbours
  have hkhalf : q - k * step = step / 2 := by linarith
  have hlhalf : q - l * step = -(step / 2) := by linarith
  have hneighbours : (l : ℚ) = k + 1 := by
    have hsteps : (l - k - 1 : ℚ) * step = 0 := by linarith
    have hzero := (mul_eq_zero.1 hsteps).resolve_right hstep.ne'
    linarith
  have hl' : l = k + 1 := by exact_mod_cast hneighbours
  obtain ⟨i, hi⟩ := hkeven (by rw [hkhalf, abs_of_pos (half_pos hstep)])
  obtain ⟨j, hj⟩ := hleven (by rw [hlhalf, abs_neg, abs_of_pos (half_pos hstep)])
  omega

theorem Nearest.unique {s : ℚ} (hr : Nearest q r) (hs : Nearest q s) : r = s := by
  obtain ⟨k, rfl, hk, hkeven⟩ := hr
  obtain ⟨l, rfl, hl, hleven⟩ := hs
  have hgap := gap_pos q
  have hle := not_lt.1 (not_lt_of_near hgap hl hleven hk hkeven)
  have hge := not_lt.1 (not_lt_of_near hgap hk hkeven hl hleven)
  rw [le_antisymm hle hge]

/-- A number that is not negative has no negative nearest value. -/
theorem Nearest.nonneg (h : Nearest q r) (hq : 0 ≤ q) : 0 ≤ r := by
  obtain ⟨k, rfl, hnear, -⟩ := h
  have hgap := gap_pos q
  by_contra hneg
  have hk : k < 0 := by
    by_contra hk
    exact hneg (mul_nonneg (by exact_mod_cast not_lt.1 hk) hgap.le)
  have hk' : (k : ℚ) ≤ -1 := by exact_mod_cast Int.le_sub_one_of_lt hk
  have hbelow : k * gap q ≤ -1 * gap q := mul_le_mul_of_nonneg_right hk' hgap.le
  have habove := (abs_le.1 hnear).2
  linarith

/-- The gap at a number that is not small is at most the number. -/
theorem gap_le_abs (hq : 1 ≤ |q|) : gap q ≤ |q| := by
  have hpos : 0 < |q| := by linarith
  have hlog : 0 ≤ Int.log 2 |q| := (Int.zpow_le_iff_le_log (by decide) hpos).1 (by simpa using hq)
  calc gap q
    _ ≤ 2 ^ Int.log 2 |q| := zpow_le_zpow_right₀ (by norm_num) (by unfold minExponent; omega)
    _ ≤ |q| := Int.zpow_log_le_self (by decide) hpos

/-- A number that is not small is at most twice its nearest value. -/
theorem Nearest.abs_le (h : Nearest q r) (hq : 1 ≤ |q|) : |q| ≤ 2 * |r| := by
  obtain ⟨k, -, hnear, -⟩ := h
  have hgap := gap_le_abs hq
  have htriangle := abs_sub_abs_le_abs_sub q r
  linarith

/-- A multiple of the gap at it is its own nearest value. -/
theorem nearest_self {k : ℤ} (h : q = k * gap q) : Nearest q q := by
  have hhalf := half_pos (gap_pos q)
  refine ⟨k, h, ?_, fun htie => ?_⟩
  · rw [sub_self, abs_zero]
    exact hhalf.le
  · rw [sub_self, abs_zero] at htie
    exact absurd htie hhalf.ne

/-- A whole number of at most 53 bits is its own nearest value. -/
theorem nearest_intCast {n : ℤ} (h : |n| ≤ 2 ^ 53) : Nearest n n := by
  have hle : |(n : ℚ)| ≤ 2 ^ 53 := by exact_mod_cast h
  by_cases hlog : Int.log 2 |(n : ℚ)| ≤ 52
  · -- the gap is one over a power of two
    have hexponent : (max minExponent (Int.log 2 |(n : ℚ)| - 52)).toNat = 0 := by
      unfold minExponent
      omega
    refine nearest_self (k := n * 2 ^ (-max minExponent (Int.log 2 |(n : ℚ)| - 52)).toNat) ?_
    rw [gap, zpow_eq_div two_ne_zero, hexponent]
    push_cast
    rw [pow_zero, mul_one_div, mul_div_cancel_right₀ _ (by positivity)]
  · -- only the largest of these numbers and its opposite are left
    have hpos : 0 < |(n : ℚ)| := by
      by_contra hzero
      rw [Int.log_of_right_le_zero 2 (not_lt.1 hzero)] at hlog
      omega
    have hge : (2 : ℚ) ^ (53 : ℤ) ≤ |(n : ℚ)| := by
      exact_mod_cast (Int.zpow_le_iff_le_log (by decide) hpos).2 (by omega : (53 : ℤ) ≤ Int.log 2 |(n : ℚ)|)
    have heq : |n| = 2 ^ 53 := by
      refine le_antisymm h ?_
      exact_mod_cast hge
    have hgap : gap n = 2 := by
      have habs : |(n : ℚ)| = ((2 : ℕ) : ℚ) ^ (53 : ℤ) := by exact_mod_cast heq
      rw [gap, habs, Int.log_zpow (by decide)]
      norm_num [minExponent]
    have heven : n / 2 * 2 = n := by
      obtain rfl | rfl := (abs_eq (by norm_num)).1 heq
      · norm_num
      · norm_num
    refine nearest_self (k := n / 2) ?_
    rw [hgap]
    exact_mod_cast heven.symm

/-! ### Rounded quotients -/

/-- The quotient is rounded to a whole number within a half of it, and to an even one at a half. -/
theorem roundDiv_near (num : Nat) (hden : 0 < den) :
    |(num / den : ℚ) - roundDiv num den| ≤ 1 / 2 ∧
      (|(num / den : ℚ) - roundDiv num den| = 1 / 2 → Even (roundDiv num den)) := by
  have hden' : (0 : ℚ) < den := by exact_mod_cast hden
  have hrest : (num / den : ℚ) - (num / den : ℕ) = (num % den : ℕ) / den := by
    have hnum : (num : ℚ) = den * (num / den : ℕ) + (num % den : ℕ) := by exact_mod_cast (Nat.div_add_mod num den).symm
    rw [hnum]
    field_simp
    ring
  have hnonneg : (0 : ℚ) ≤ (num % den : ℕ) / den := by positivity
  have hlt_one : ((num % den : ℕ) / den : ℚ) < 1 := by
    rw [div_lt_one hden']
    exact_mod_cast Nat.mod_lt num hden
  unfold roundDiv
  dsimp only
  obtain hlow | hhalf | hhigh := lt_trichotomy (2 * (num % den)) den
  · have hlow' : ((num % den : ℕ) / den : ℚ) < 1 / 2 := by
      rw [div_lt_iff₀ hden']
      have : (2 * (num % den : ℕ) : ℚ) < den := by exact_mod_cast hlow
      linarith
    rw [if_pos hlow, hrest, abs_of_nonneg hnonneg]
    exact ⟨hlow'.le, fun h => absurd h hlow'.ne⟩
  · have hhalf' : ((num % den : ℕ) / den : ℚ) = 1 / 2 := by
      rw [div_eq_iff hden'.ne']
      have : (2 * (num % den : ℕ) : ℚ) = den := by exact_mod_cast hhalf
      linarith
    rw [if_neg (by omega), if_neg (by omega)]
    by_cases heven : num / den % 2 = 0
    · rw [if_pos heven, hrest, hhalf', abs_of_pos (by norm_num)]
      exact ⟨le_rfl, fun _ => Nat.even_iff.2 heven⟩
    · have hodd : (num / den : ℚ) - (num / den + 1 : ℕ) = -(1 / 2) := by
        push_cast
        linarith
      rw [if_neg heven, hodd, abs_neg, abs_of_pos (by norm_num)]
      exact ⟨le_rfl, fun _ => Nat.even_iff.2 (by omega)⟩
  · have hhigh' : (1 / 2 : ℚ) < (num % den : ℕ) / den := by
      rw [lt_div_iff₀ hden']
      have : (den : ℚ) < 2 * (num % den : ℕ) := by exact_mod_cast hhigh
      linarith
    have habove : (num / den : ℚ) - (num / den + 1 : ℕ) = -(1 - (num % den : ℕ) / den) := by
      push_cast
      linarith
    rw [if_neg (by omega), if_pos hhigh, habove, abs_neg, abs_of_pos (by linarith)]
    exact ⟨by linarith, fun h => absurd h (by linarith : (1 - (num % den : ℕ) / den : ℚ) < 1 / 2).ne⟩

/-- The logarithm of a number that lies between two powers of two. -/
private theorem log_eq {e : ℤ} (hlow : (2 : ℚ) ^ e ≤ q) (hhigh : q < 2 ^ (e + 1)) : Int.log 2 q = e := by
  have hpos : 0 < q := lt_of_lt_of_le (by positivity) hlow
  have hle := (Int.zpow_le_iff_le_log (by decide) hpos).1 (by exact_mod_cast hlow : ((2 : ℕ) : ℚ) ^ e ≤ q)
  have hlt := (Int.lt_zpow_iff_log_lt (by decide) hpos).1 (by exact_mod_cast hhigh : q < ((2 : ℕ) : ℚ) ^ (e + 1))
  omega

private theorem log2_bounds {n : Nat} (h : 0 < n) : (2 : ℚ) ^ n.log2 ≤ n ∧ (n : ℚ) < 2 ^ (n.log2 + 1) :=
  ⟨by exact_mod_cast Nat.log2_self_le h.ne', by exact_mod_cast Nat.lt_log2_self⟩

/-- The logarithm of a quotient is that of its numerator less that of its denominator, or one less. -/
private theorem log_div_bounds (hnum : 0 < num) (hden : 0 < den) :
    (2 : ℚ) ^ ((num.log2 : ℤ) - den.log2 - 1) ≤ num / den ∧ (num / den : ℚ) < 2 ^ ((num.log2 : ℤ) - den.log2 + 1) := by
  have hden' : (0 : ℚ) < den := by exact_mod_cast hden
  obtain ⟨hnumlow, hnumhigh⟩ := log2_bounds hnum
  obtain ⟨hdenlow, hdenhigh⟩ := log2_bounds hden
  constructor
  · have hpow : (2 : ℚ) ^ ((num.log2 : ℤ) - den.log2 - 1) = 2 ^ num.log2 / 2 ^ (den.log2 + 1) := by
      rw [sub_sub, zpow_sub₀ two_ne_zero, zpow_natCast]
      norm_cast
    rw [hpow, div_le_div_iff₀ (by positivity) hden']
    exact mul_le_mul hnumlow hdenhigh.le hden'.le (Nat.cast_nonneg num)
  · have hpow : (2 : ℚ) ^ ((num.log2 : ℤ) - den.log2 + 1) = 2 ^ (num.log2 + 1) / 2 ^ den.log2 := by
      rw [sub_add_eq_add_sub, zpow_sub₀ two_ne_zero, zpow_natCast]
      norm_cast
    rw [hpow, div_lt_div_iff₀ hden' (by positivity)]
    exact mul_lt_mul hnumhigh hdenlow (by positivity) (by positivity)

theorem exponentFor_eq (hnum : 0 < num) (hden : 0 < den) :
    exponentFor num den = max minExponent (Int.log 2 (num / den : ℚ) - 52) := by
  have hden' : (0 : ℚ) < den := by exact_mod_cast hden
  obtain ⟨hlow, hhigh⟩ := log_div_bounds hnum hden
  have hreaches : den * twoPow ((num.log2 : ℤ) - den.log2).toNat ≤ num * twoPow (-((num.log2 : ℤ) - den.log2)).toNat ↔
      (2 : ℚ) ^ ((num.log2 : ℤ) - den.log2) ≤ num / den := by
    rw [zpow_eq_div two_ne_zero, div_le_div_iff₀ (by positivity) hden', mul_comm den]
    exact_mod_cast Iff.rfl
  unfold exponentFor
  dsimp only
  by_cases h : (2 : ℚ) ^ ((num.log2 : ℤ) - den.log2) ≤ num / den
  · rw [log_eq h hhigh, if_pos (hreaches.2 h)]
  · rw [log_eq hlow (by rw [sub_add_cancel]; exact not_le.1 h), if_neg (mt hreaches.1 h)]
    congr 1
    omega

private theorem div_pos_of_pos (hnum : 0 < num) (hden : 0 < den) : (0 : ℚ) < num / den :=
  div_pos (by exact_mod_cast hnum) (by exact_mod_cast hden)

/-- The gap at a quotient is the power of two with the exponent for it. -/
theorem gap_div (hnum : 0 < num) (hden : 0 < den) : gap (num / den) = 2 ^ exponentFor num den := by
  rw [gap, abs_of_pos (div_pos_of_pos hnum hden), exponentFor_eq hnum hden]

private theorem scaled_div (num den : Nat) (e : ℤ) :
    ((num * twoPow (-e).toNat : ℕ) / (den * twoPow e.toNat : ℕ) : ℚ) = num / den / 2 ^ e := by
  have hpow (k : Nat) : ((twoPow k : ℕ) : ℚ) = 2 ^ k := by
    rw [show twoPow k = 2 ^ k from rfl]
    push_cast
    rfl
  rw [Nat.cast_mul, Nat.cast_mul, hpow, hpow, zpow_eq_div two_ne_zero e]
  have hlow : (2 : ℚ) ^ e.toNat ≠ 0 := by positivity
  have hhigh : (2 : ℚ) ^ (-e).toNat ≠ 0 := by positivity
  rw [div_div_eq_mul_div, div_mul_eq_mul_div, div_div]

/-- The rounded mantissa with its exponent is the nearest value. -/
private theorem nearest_roundDiv (hnum : 0 < num) (hden : 0 < den) :
    Nearest (num / den) (roundDiv (num * twoPow (-exponentFor num den).toNat)
      (den * twoPow (exponentFor num den).toNat) * 2 ^ exponentFor num den) := by
  have hgap := gap_div hnum hden
  generalize exponentFor num den = e at hgap ⊢
  have hpow : (0 : ℚ) < 2 ^ e := by positivity
  have hden' : 0 < den * twoPow e.toNat := Nat.mul_pos hden (Nat.two_pow_pos _)
  obtain ⟨hnear, heven⟩ := roundDiv_near (num * twoPow (-e).toNat) hden'
  rw [scaled_div] at hnear heven
  generalize roundDiv (num * twoPow (-e).toNat) (den * twoPow e.toNat) = m at hnear heven ⊢
  have hdist : |(num / den : ℚ) - m * 2 ^ e| = |(num / den : ℚ) / 2 ^ e - m| * 2 ^ e := by
    rw [← abs_of_pos hpow, ← abs_mul, abs_of_pos hpow, sub_mul, div_mul_cancel₀ _ hpow.ne']
  refine ⟨m, ?_, ?_, fun htie => ?_⟩
  · rw [hgap, Int.cast_natCast]
  · have hscaled := mul_le_mul_of_nonneg_right hnear hpow.le
    rw [hgap, hdist]
    linarith
  · rw [hgap, hdist] at htie
    have hhalf : |(num / den : ℚ) / 2 ^ e - m| = 1 / 2 := mul_right_cancel₀ hpow.ne' (by rw [htie]; ring)
    exact (Int.even_coe_nat m).2 (heven hhalf)

/-- What a quotient is rounded to, as a magnitude or as none where its exponent is too large. -/
private theorem ofRatio_eq (hnum : 0 < num) (den : Nat) :
    ∃ rounded : Magnitude, rounded.value = roundDiv (num * twoPow (-exponentFor num den).toNat)
        (den * twoPow (exponentFor num den).toNat) * 2 ^ exponentFor num den ∧
      rounded.exponent ≤ exponentFor num den + 1 ∧
      ofRatio num den = if maxExponent < rounded.exponent then none else some rounded := by
  unfold ofRatio
  rw [if_neg hnum.ne']
  dsimp only
  generalize exponentFor num den = e
  generalize roundDiv (num * twoPow (-e).toNat) (den * twoPow e.toNat) = m
  by_cases hcarry : m = twoPow 53
  · refine ⟨⟨twoPow 52, e + 1⟩, ?_, le_rfl, by rw [if_pos hcarry]⟩
    have hdouble : ((twoPow 53 : ℕ) : ℚ) = twoPow 52 * 2 := by
      exact_mod_cast (rfl : twoPow 53 = twoPow 52 * 2)
    rw [hcarry, hdouble, Magnitude.value, zpow_add_one₀ two_ne_zero]
    ring
  · exact ⟨⟨m, e⟩, rfl, by simp, by rw [if_neg hcarry]⟩

theorem nearest_zero : Nearest 0 0 := ⟨0, by simp, by rw [sub_zero, abs_zero]; exact (half_pos (gap_pos 0)).le, by simp⟩

/-- A rounded quotient is the nearest value. -/
theorem nearest_of_ofRatio (hden : 0 < den) (h : ofRatio num den = some a) : Nearest (num / den) a.value := by
  obtain rfl | hnum := num.eq_zero_or_pos
  · obtain rfl : Magnitude.zero = a := Option.some.inj h
    rw [Nat.cast_zero, zero_div, Magnitude.value, Magnitude.zero, Nat.cast_zero, zero_mul]
    exact nearest_zero
  · obtain ⟨rounded, hvalue, -, hratio⟩ := ofRatio_eq hnum den
    rw [hratio, Option.ite_none_left_eq_some] at h
    rw [← Option.some.inj h.2, hvalue]
    exact nearest_roundDiv hnum hden

/-- A quotient that cannot be rounded is large. -/
theorem le_of_ofRatio (hden : 0 < den) (h : ofRatio num den = none) : (2 : ℚ) ^ 55 ≤ num / den := by
  obtain rfl | hnum := num.eq_zero_or_pos
  · cases h
  · obtain ⟨rounded, -, hexponent, hratio⟩ := ofRatio_eq hnum den
    have hlarge : maxExponent < rounded.exponent := by
      rw [hratio] at h
      by_contra hsmall
      rw [if_neg hsmall] at h
      cases h
    have hlog : (55 : ℤ) ≤ Int.log 2 (num / den : ℚ) := by
      have heq := exponentFor_eq hnum hden
      unfold maxExponent at hlarge
      unfold minExponent at heq
      omega
    exact_mod_cast (Int.zpow_le_iff_le_log (by decide) (div_pos_of_pos hnum hden)).2 hlog

/-! ### Rounded decimals -/

/-- A number below half of the smallest value is nearest to zero. -/
theorem nearest_zero_of_lt (hnonneg : 0 ≤ q) (h : q < 2 ^ (-1075 : ℤ)) : Nearest q 0 := by
  obtain rfl | hpos := hnonneg.eq_or_lt
  · exact nearest_zero
  · have hlog : Int.log 2 q < -1075 := (Int.lt_zpow_iff_log_lt (by decide) hpos).1 (by exact_mod_cast h)
    have hgap : gap q = 2 ^ (-1075 : ℤ) * 2 := by
      rw [gap, abs_of_pos hpos, max_eq_left (by unfold minExponent; omega), ← zpow_add_one₀ two_ne_zero]
      rfl
    have hlt : |q - 0| < gap q / 2 := by
      rw [sub_zero, abs_of_pos hpos, hgap]
      linarith
    exact ⟨0, by simp, hlt.le, fun htie => absurd htie hlt.ne⟩

private theorem decimal_div (digits : Nat) (exponent : ℤ) :
    ((digits * tenPow exponent.toNat : ℕ) / (tenPow (-exponent).toNat : ℕ) : ℚ) = digits * 10 ^ exponent := by
  have hpow (k : Nat) : ((tenPow k : ℕ) : ℚ) = 10 ^ k := by exact_mod_cast (rfl : tenPow k = 10 ^ k)
  rw [Nat.cast_mul, hpow, hpow, zpow_eq_div (by norm_num) exponent, mul_div_assoc]

/-- A decimal that is settled as zero without its power of ten lies below half of the smallest value. -/
private theorem lt_of_exponent_lt {digits : Nat} {exponent : ℤ} (h : exponent < -(400 + digits.log2 : ℤ)) :
    (digits * 10 ^ exponent : ℚ) < 2 ^ (-1075 : ℤ) := by
  have hdigits : (digits : ℚ) < 2 ^ (digits.log2 + 1) := by exact_mod_cast Nat.lt_log2_self
  have hpowers : (2 : ℚ) ^ (digits.log2 + 1) * 2 ^ 1075 ≤ 10 ^ (401 + digits.log2) := by
    calc (2 : ℚ) ^ (digits.log2 + 1) * 2 ^ 1075
      _ = 2 ^ (digits.log2 + 1 + 1075) := (pow_add _ _ _).symm
      _ ≤ 2 ^ (3 * (401 + digits.log2)) := pow_le_pow_right₀ one_le_two (by omega)
      _ = 8 ^ (401 + digits.log2) := by rw [pow_mul]; norm_num
      _ ≤ 10 ^ (401 + digits.log2) := pow_le_pow_left₀ (by norm_num) (by norm_num) _
  calc (digits * 10 ^ exponent : ℚ)
    _ < 2 ^ (digits.log2 + 1) * 10 ^ exponent := mul_lt_mul_of_pos_right hdigits (by positivity)
    _ ≤ 2 ^ (digits.log2 + 1) * 10 ^ (-((401 + digits.log2 : ℕ) : ℤ)) := by
      refine mul_le_mul_of_nonneg_left (zpow_le_zpow_right₀ (by norm_num) ?_) (by positivity)
      push_cast
      omega
    _ = 2 ^ (digits.log2 + 1) / 10 ^ (401 + digits.log2) := by rw [zpow_neg, zpow_natCast, div_eq_mul_inv]
    _ ≤ 1 / 2 ^ 1075 := by
      rw [div_le_div_iff₀ (by positivity) (by positivity), one_mul]
      exact hpowers
    _ = 2 ^ (-1075 : ℤ) := by
      rw [show (-1075 : ℤ) = -((1075 : ℕ) : ℤ) from rfl, zpow_neg, zpow_natCast, one_div]

/-- A rounded decimal is the nearest value. -/
theorem nearest_of_ofDecimal {digits : Nat} {exponent : ℤ} (h : ofDecimal digits exponent = some a) :
    Nearest (digits * 10 ^ exponent) a.value := by
  have hzero : Magnitude.zero.value = 0 := by simp [Magnitude.value, Magnitude.zero]
  unfold ofDecimal at h
  split at h
  · rename_i hdigits
    rw [← Option.some.inj h, hzero, hdigits, Nat.cast_zero, zero_mul]
    exact nearest_zero
  · split at h
    · cases h
    · split at h
      · rename_i hsmall
        rw [← Option.some.inj h, hzero]
        exact nearest_zero_of_lt (by positivity) (lt_of_exponent_lt hsmall)
      · rw [← decimal_div]
        exact nearest_of_ofRatio (Nat.pow_pos (by decide)) h

/-- A decimal that cannot be rounded is large. -/
theorem le_of_ofDecimal {digits : Nat} {exponent : ℤ} (h : ofDecimal digits exponent = none) :
    (2 : ℚ) ^ 55 ≤ digits * 10 ^ exponent := by
  unfold ofDecimal at h
  split at h
  · cases h
  · rename_i hdigits
    split at h
    · rename_i hlarge
      have hone : (1 : ℚ) ≤ digits := by exact_mod_cast Nat.one_le_iff_ne_zero.2 hdigits
      calc (2 : ℚ) ^ 55
        _ ≤ 10 ^ (55 : ℤ) := by norm_num
        _ ≤ 10 ^ exponent := zpow_le_zpow_right₀ (by norm_num) (by omega)
        _ ≤ digits * 10 ^ exponent := le_mul_of_one_le_left (by positivity) hone
    · split at h
      · cases h
      · rw [← decimal_div]
        exact le_of_ofRatio (Nat.pow_pos (by decide)) h

/-! ### Whole magnitudes -/

theorem value_nonneg (a : Magnitude) : 0 ≤ a.value := by
  unfold Magnitude.value
  positivity

theorem toNat?_eq_some_iff {n : Nat} : a.toNat? = some n ↔ a.value = n := by
  have hden : (0 : ℚ) < (twoPow (-a.exponent).toNat : ℕ) := by exact_mod_cast Nat.two_pow_pos _
  have hvalue : a.value = (a.mantissa * twoPow a.exponent.toNat : ℕ) / (twoPow (-a.exponent).toNat : ℕ) := by
    have hpow (k : Nat) : ((twoPow k : ℕ) : ℚ) = 2 ^ k := by exact_mod_cast (rfl : twoPow k = 2 ^ k)
    rw [Magnitude.value, Nat.cast_mul, hpow, hpow, zpow_eq_div two_ne_zero, mul_div_assoc]
  have hwhole : a.value = n ↔ a.mantissa * twoPow a.exponent.toNat = n * twoPow (-a.exponent).toNat := by
    rw [hvalue, div_eq_iff hden.ne']
    exact_mod_cast Iff.rfl
  unfold Magnitude.toNat?
  dsimp only
  rw [hwhole, Option.ite_none_right_eq_some, Option.some.injEq]
  constructor
  · rintro ⟨hmod, rfl⟩
    exact (Nat.div_mul_cancel (Nat.dvd_of_mod_eq_zero hmod)).symm
  · intro h
    rw [h]
    exact ⟨Nat.mul_mod_left .., Nat.mul_div_cancel _ (Nat.two_pow_pos _)⟩

end LineAtlas.Binary64
