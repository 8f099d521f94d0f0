import LineAtlas.Proofs.Binary64.DecimalText
import LineAtlas.Proofs.Binary64.Nearest
import LineAtlas.Proofs.CharMap.Spelled

/-!
# Numbers of character maps

A decimal names a slot by its exact value where it is plain.  With a point or an exponent it names one by its nearest
binary64 value, if that is a whole number of at most 53 bits (`Named`).  A whole number of at most 53 bits is its own
nearest value (`Slot.read_of_whole`), but other values can be near a whole number too (`Misread`).  The decimals that
name their exact value, and no slot where that is not whole, are all that are not misread (`names_value_iff`).
-/

namespace LineAtlas

open Binary64 (DecimalText Nearest)

/-! ### Decimals as slots -/

/-- A decimal names a whole number: its value where it is plain, else the nearest binary64 value. -/
def Binary64.DecimalText.Named (d : DecimalText) (n : ℤ) : Prop :=
  (d.IsPlain ∧ d.value = n ∧ -(Numeral.signedRange : ℤ) ≤ n ∧ n < Numeral.signedRange) ∨
    (¬ d.IsPlain ∧ Nearest d.value n ∧ n.natAbs ≤ Slot.exactLimit)

/-- A decimal names a slot that is not that of its value.  All negative numbers name the same slot, so that only a
value which is not whole is misread as one of them. -/
def Binary64.DecimalText.Misread (d : DecimalText) : Prop :=
  ¬ d.IsPlain ∧ ∃ n : ℤ, Nearest d.value n ∧ n.natAbs ≤ Slot.exactLimit ∧
    d.value ≠ n ∧ (n < 0 → ∀ k : ℤ, d.value ≠ k)

namespace Slot

variable {token : List Char} {n : ℤ}

/-- What is near a whole number of at most 53 bits is not large. -/
theorem lt_of_nearest {q : ℚ} (h : Nearest q n) (hn : n.natAbs ≤ exactLimit) : |q| < 2 ^ 55 := by
  have hsmall : |(n : ℚ)| ≤ 2 ^ 53 := by
    rw [← Int.cast_abs, Int.abs_eq_natAbs]
    exact_mod_cast hn
  by_contra hlarge
  have hdouble := h.abs_le (by linarith)
  linarith

/-- A literal is rounded to a whole number where that is its nearest value and has at most 53 bits. -/
theorem whole?_eq_some_iff {l : Binary64.Literal} (h : Binary64.literal? token = some l) :
    whole? token = some n ↔ Nearest l.value n ∧ n.natAbs ≤ exactLimit := by
  have habs : |l.value| = l.digits * 10 ^ l.exponent := by
    have hnonneg : (0 : ℚ) ≤ l.digits * 10 ^ l.exponent := by positivity
    unfold Binary64.Literal.value
    cases l.negative <;> simp [abs_of_nonneg hnonneg]
  cases hmagnitude : l.magnitude? with
  | none =>
    have hlarge := Binary64.le_of_ofDecimal hmagnitude
    have hnone : whole? token = none := by simp [whole?, h, hmagnitude]
    rw [hnone]
    simp only [reduceCtorEq, false_iff, not_and]
    intro hnear hle
    have hsmall := lt_of_nearest hnear hle
    rw [habs] at hsmall
    linarith
  | some a =>
    have hsome : whole? token = some n ↔
        ∃ k : Nat, a.value = k ∧ k ≤ exactLimit ∧ (if l.negative then -(k : ℤ) else k) = n := by
      simp [whole?, h, hmagnitude, Option.bind_eq_some_iff, Binary64.toNat?_eq_some_iff]
    have hnear : Nearest l.value ((if l.negative then -1 else 1) * a.value) := by
      have hmagnitude := Binary64.nearest_of_ofDecimal hmagnitude
      unfold Binary64.Literal.value
      cases l.negative with
      | false => simpa using hmagnitude
      | true => simpa using hmagnitude.neg
    have hiff : Nearest l.value n ↔ (if l.negative then -1 else 1) * a.value = n :=
      ⟨fun hn => hnear.unique hn, fun hn => hn ▸ hnear⟩
    rw [hsome, hiff]
    constructor
    · rintro ⟨k, hk, hle, rfl⟩
      rw [hk]
      cases l.negative <;> simp [hle]
    · rintro ⟨hn, hle⟩
      have hsize : a.value = n.natAbs := by
        rw [Nat.cast_natAbs, Int.cast_abs, ← hn, abs_mul, abs_of_nonneg (Binary64.value_nonneg a)]
        cases l.negative <;> simp
      refine ⟨n.natAbs, hsize, hle, ?_⟩
      cases hnegative : l.negative with
      | false =>
        rw [hnegative, hsize, if_neg Bool.false_ne_true, one_mul, Nat.cast_natAbs] at hn
        rw [if_neg Bool.false_ne_true]
        exact_mod_cast hn
      | true =>
        rw [hnegative, hsize, if_pos rfl, neg_one_mul, Nat.cast_natAbs] at hn
        rw [if_pos rfl]
        exact_mod_cast hn

/-- A plain decimal that is too large for a numeral with a sign is not near a whole number of at most 53 bits. -/
theorem signed?_chars_ne_none {d : DecimalText} (hplain : d.IsPlain) (hnear : Nearest d.value n)
    (hn : n.natAbs ≤ exactLimit) : Numeral.signed? d.chars ≠ none := by
  intro hnone
  have hvalue := d.value_of_isPlain hplain
  have hsmall := lt_of_nearest hnear hn
  rw [hvalue, ← Int.cast_abs] at hsmall
  have hbound : |d.sign.unit * (Numeral.value d.whole : ℤ)| < 2 ^ 55 := by exact_mod_cast hsmall
  rw [abs_lt] at hbound
  have hrange : (Numeral.signedRange : ℤ) = 2 ^ 63 := rfl
  have hread := d.signed?_chars_iff.2 ⟨hplain, hvalue, by omega, by omega⟩
  rw [hnone] at hread
  cases hread

theorem number?_chars_iff (d : DecimalText) :
    (Numeral.signed? d.chars).or (whole? d.chars) = some n ↔ d.Named n := by
  have hwhole := whole?_eq_some_iff (n := n) d.literal?_chars
  rw [d.value_literal] at hwhole
  rw [Option.or_eq_some_iff, d.signed?_chars_iff, hwhole]
  refine or_congr Iff.rfl (and_congr_left fun ⟨hnear, hn⟩ => ?_)
  constructor
  · intro hnone hplain
    exact signed?_chars_ne_none hplain hnear hn hnone
  · intro hplain
    rw [Option.eq_none_iff_forall_ne_some]
    intro k hk
    exact hplain (d.signed?_chars_iff.1 hk).1

theorem read_decimal (d : DecimalText) :
    read d.chars = ((Numeral.signed? d.chars).or (whole? d.chars)).elim (.error (.badSlot (String.ofList d.chars)))
      fun n => .ok (ofInt n) := by
  refine read_number fun hmem => ?_
  have hliteral := d.literal?_chars
  simp only [List.mem_cons, List.not_mem_nil, or_false] at hmem
  rcases hmem with hnothing | hword | hword
  · rw [hnothing] at hliteral
    cases hliteral
  · rw [hword] at hliteral
    cases hliteral
  · rw [hword] at hliteral
    cases hliteral

theorem read_of_named {d : DecimalText} (h : d.Named n) : read d.chars = .ok (ofInt n) := by
  rw [read_decimal, (number?_chars_iff d).2 h, Option.elim_some]

theorem read_of_not_named {d : DecimalText} (h : ∀ n, ¬ d.Named n) :
    read d.chars = .error (.badSlot (String.ofList d.chars)) := by
  have hnone : (Numeral.signed? d.chars).or (whole? d.chars) = none := by
    rw [Option.eq_none_iff_forall_ne_some]
    exact fun n hn => h n ((number?_chars_iff d).1 hn)
  rw [read_decimal, hnone, Option.elim_none]

/-- A whole number of at most 53 bits is named exactly, however it is written. -/
theorem read_of_whole {d : DecimalText} (hvalue : d.value = n) (hn : n.natAbs ≤ exactLimit) :
    read d.chars = .ok (ofInt n) := by
  have hlimit : (exactLimit : ℤ) = 2 ^ 53 := rfl
  have hrange : (Numeral.signedRange : ℤ) = 2 ^ 63 := rfl
  apply read_of_named
  by_cases hplain : d.IsPlain
  · exact .inl ⟨hplain, hvalue, by omega, by omega⟩
  · refine .inr ⟨hplain, ?_, hn⟩
    rw [hvalue]
    exact Binary64.nearest_intCast (abs_le.2 (by omega))

/-- A decimal that is not misread names the slot of its value. -/
theorem value_of_read {d : DecimalText} {slot : Slot} (hd : ¬ d.Misread) (h : read d.chars = .ok slot) :
    ∃ n : ℤ, d.value = n ∧ slot = ofInt n := by
  by_cases hnamed : ∃ n, d.Named n
  · obtain ⟨n, hn⟩ := hnamed
    rw [read_of_named hn] at h
    cases h
    rcases hn with ⟨-, hvalue, -⟩ | ⟨hplain, hnear, hle⟩
    · exact ⟨n, hvalue, rfl⟩
    · by_cases hvalue : d.value = n
      · exact ⟨n, hvalue, rfl⟩
      · -- a negative number that is not misread: the value is whole and negative too
        have hwhole : ¬ (n < 0 → ∀ k : ℤ, d.value ≠ k) := fun h => hd ⟨hplain, n, hnear, hle, hvalue, h⟩
        simp only [Classical.not_imp, not_forall, not_not] at hwhole
        obtain ⟨hneg, k, hk⟩ := hwhole
        have hkneg : k < 0 := by
          by_contra hnonneg
          have hvalue_nonneg : 0 ≤ d.value := by
            rw [hk]
            exact_mod_cast not_lt.1 hnonneg
          have hn_nonneg := hnear.nonneg hvalue_nonneg
          have : 0 ≤ n := by exact_mod_cast hn_nonneg
          omega
        exact ⟨k, hk, by rw [ofInt_of_neg hneg, ofInt_of_neg hkneg]⟩
  · rw [read_of_not_named (not_exists.1 hnamed)] at h
    cases h

/-- A misread decimal names a slot that is not the one of its value. -/
theorem read_of_misread {d : DecimalText} (hd : d.Misread) :
    ∃ n, read d.chars = .ok (ofInt n) ∧ ∀ k : ℤ, d.value = k → ofInt n ≠ ofInt k := by
  obtain ⟨hplain, n, hnear, hle, hvalue, hneg⟩ := hd
  refine ⟨n, read_of_named (.inr ⟨hplain, hnear, hle⟩), fun k hk hslot => ?_⟩
  unfold ofInt at hslot
  by_cases hn : n < 0
  · exact hneg hn k hk
  · rw [if_neg hn] at hslot
    by_cases hk' : k < 0
    · rw [if_pos hk'] at hslot
      cases hslot
    · rw [if_neg hk', mapping.injEq] at hslot
      have hnk : n = k := by omega
      exact hvalue (hnk ▸ hk)

theorem token_of_read {e : CharMap.Fault} (h : read token = .error e) : e = .badSlot (String.ofList token) := by
  unfold read at h
  split at h
  · cases h
  · split at h
    · cases h
    · cases h
      rfl

end Slot

namespace CharMap

/-- The texts between the commas of an array literal, without the blanks around them. -/
def tokens? (literal : String) : Option (List (List Char)) :=
  (inside? (Text.trimChars literal.toList)).map fun inner =>
    if (Text.trimChars inner).isEmpty then [] else pieces inner

variable {literal : String} {tokens : List (List Char)} {d : DecimalText} {m : CharMap}

theorem read_of_tokens? (h : tokens? literal = some tokens) :
    read literal = (tokens.mapM Slot.read).map CharMap.mk := by
  obtain ⟨inner, hinner, rfl⟩ := Option.map_eq_some_iff.1 h
  unfold read
  rw [hinner]
  dsimp only
  split
  · rfl
  · rfl

/-- A decimal between brackets is the only text there. -/
theorem tokens?_brackets (d : DecimalText) : tokens? (String.ofList ('[' :: (d.chars ++ [']']))) = some [d.chars] := by
  have hplain {c : Char} (hc : c ∈ d.chars) : Text.isBlank c = false ∧ c ≠ ',' := by
    rcases d.mem_chars hc with hdigit | hsign
    · exact ⟨Text.isBlank_of_isDigit hdigit, Numeral.ne_of_isDigit hdigit rfl⟩
    · exact Slot.plain_of_all (by decide) hsign
  have htrim : Text.trimChars d.chars = d.chars := Text.trimChars_eq_self_of_forall fun c hc => (hplain hc).1
  have hne : d.chars ≠ [] := by
    intro hnil
    have hliteral := d.literal?_chars
    rw [hnil] at hliteral
    cases hliteral
  have hsplit : Text.splitAt ',' d.chars = [d.chars] := by
    have hone : Text.splitAt ',' ([','].intercalate [d.chars]) = [d.chars] :=
      Text.splitAt_intercalate (List.cons_ne_nil _ _) fun piece hpiece hcomma =>
        (hplain (List.mem_singleton.1 hpiece ▸ hcomma)).2 rfl
    simpa using hone
  unfold tokens?
  rw [String.toList_ofList, Text.trimChars_enclosed (by decide) (by decide), inside?_brackets, Option.map_some, htrim,
    if_neg (by simpa using hne), pieces, hsplit]
  simp [htrim]

/-- The decimals that are not misread are those that name their exact value in every literal, and no slot where that is
not whole. -/
theorem names_value_iff (d : DecimalText) :
    ¬ d.Misread ↔ ∀ literal tokens, tokens? literal = some tokens → d.chars ∈ tokens →
      (∀ m, read literal = .ok m → ∃ n : ℤ, d.value = n ∧ ∀ i : Nat, tokens[i]? = some d.chars →
        m.slots[i]? = some (if n < 0 then Slot.unmapped else Slot.mapping n.toNat)) ∧
      ((∀ n : ℤ, d.value ≠ n) → ∃ token ∈ tokens, read literal = .error (.badSlot (String.ofList token))) := by
  constructor
  · intro hd literal tokens htokens hmem
    have hread := read_of_tokens? htokens
    have hexact : ∀ m, read literal = .ok m → ∃ n : ℤ, d.value = n ∧ ∀ i : Nat, tokens[i]? = some d.chars →
        m.slots[i]? = some (Slot.ofInt n) := by
      intro m hm
      rw [hread] at hm
      obtain ⟨slots, hslots, rfl⟩ := Except.map_eq_ok_iff.1 hm
      obtain ⟨j, hj⟩ := List.mem_iff_getElem?.1 hmem
      obtain ⟨slot, -, hslot⟩ := Except.exists_getElem?_of_mapM_eq_ok hslots hj
      obtain ⟨n, hn, rfl⟩ := Slot.value_of_read hd hslot
      refine ⟨n, hn, fun i hi => ?_⟩
      obtain ⟨slot', hi', hslot'⟩ := Except.exists_getElem?_of_mapM_eq_ok hslots hi
      rw [hslot] at hslot'
      cases hslot'
      exact hi'
    refine ⟨hexact, fun hfraction => ?_⟩
    cases hliteral : read literal with
    | ok m =>
      obtain ⟨n, hn, -⟩ := hexact m hliteral
      exact absurd hn (hfraction n)
    | error e =>
      rw [hread] at hliteral
      cases hslots : tokens.mapM Slot.read with
      | ok slots =>
        rw [hslots] at hliteral
        cases hliteral
      | error e' =>
        rw [hslots] at hliteral
        cases hliteral
        obtain ⟨token, htoken, he⟩ := Except.exists_mem_of_mapM_eq_error hslots
        exact ⟨token, htoken, by rw [Slot.token_of_read he]⟩
  · intro h hd
    obtain ⟨n, hn, hne⟩ := Slot.read_of_misread hd
    have hread : read (String.ofList ('[' :: (d.chars ++ [']']))) = .ok ⟨[Slot.ofInt n]⟩ := by
      rw [read_of_tokens? (tokens?_brackets d), List.mapM_cons, hn]
      rfl
    obtain ⟨k, hk, hslots⟩ := (h _ _ (tokens?_brackets d) (List.mem_singleton_self _)).1 _ hread
    exact hne k hk (Option.some.inj (hslots 0 rfl))

/-- A fraction that is nearer to one than to any other binary64 value. -/
def nearOne : DecimalText where
  sign := .absent
  whole := ['0']
  fraction := some "99999999999999999".toList
  exponent := none
  isDigit_of_mem_whole := List.all_eq_true.1 rfl
  isDigit_of_mem_fraction := fun _ hdigits => Option.some.inj hdigits ▸ List.all_eq_true.1 rfl
  digits_ne_nil := by decide

theorem nearOne_named : nearOne.chars = "0.99999999999999999".toList ∧ (∀ n : ℤ, nearOne.value ≠ n) ∧
    read "[0.99999999999999999]" = .ok ⟨[.mapping 1]⟩ := by
  refine ⟨by decide, fun n hn => ?_, by decide⟩
  have hvalue : nearOne.value = 99999999999999999 / 10 ^ 17 := by
    have hwhole : Numeral.value nearOne.whole = 0 := by decide
    have hfraction : Numeral.value nearOne.fractionDigits = 99999999999999999 := by decide
    have hlength : nearOne.fractionDigits.length = 17 := by decide
    have hunit : nearOne.sign.unit = 1 := rfl
    have hpower : nearOne.power = 0 := rfl
    rw [DecimalText.value, hwhole, hfraction, hlength, hunit, hpower]
    norm_num
  rw [hvalue] at hn
  have hlow : (0 : ℚ) < n := by rw [← hn]; norm_num
  have hhigh : (n : ℚ) < 1 := by rw [← hn]; norm_num
  have hlow : 0 < n := by exact_mod_cast hlow
  have hhigh : n < 1 := by exact_mod_cast hhigh
  omega

end CharMap

end LineAtlas
