import LineAtlas.Proofs.Json.Spelled
import LineAtlas.Record

/-!
# Encoded records are decoded

A record stands for the lists of values that `FieldsOf` describes: its file, its line, its column and its further
fields, where an absent file may be written in four ways and absent fields at the end may be left out.  Every JSON text
of such a list is decoded to that record (`decode_encoded`).
-/

namespace LineAtlas

open Json (Value Spells Spaced)

namespace Record

/-- A value in the place of a file. -/
inductive FileField : Option String → Value → Prop
  | named (name : String) : FileField (some name) (.string name)
  | null : FileField none .null
  | empty : FileField none (.string "")
  | no : FileField none (.bool false)
  | zero : FileField none (.integer 0)

/-- The values that stand for a record: where it has no further fields, nulls at the end may be dropped. -/
def FieldsOf (r : Record) (fields : List Value) : Prop :=
  ∃ file dropped, FileField r.file file ∧ (r.extras = [] ∨ dropped = 0) ∧
    fields ++ List.replicate dropped .null = file :: .ofNat? r.line :: .ofNat? r.column :: r.extras

/-- Records that a definition can encode. -/
structure Encodable (r : Record) : Prop where
  file_ne : r.file ≠ some ""
  line_le : ∀ n ∈ r.line, n ≤ Numeral.lineLimit
  column_le : ∀ n ∈ r.column, n ≤ Numeral.lineLimit
  extras_fit : ∀ v ∈ r.extras, v.Fits (Json.nestingLimit - 1)
  decodable : r.undecodable = false

variable {r : Record} {id : Nat} {fields : List Value}

/-! ### Fields by their place -/

theorem fileOf_fileField {file : Option String} {v : Value} (h : FileField file v) (hne : file ≠ some "") :
    fileOf (some v) = .ok file := by
  cases h with
  | named name =>
    have hname : name ≠ "" := fun heq => hne (congrArg some heq)
    simp [fileOf, Value.isFalsy, hname]
  | null => rfl
  | empty => rfl
  | no => rfl
  | zero => rfl

theorem lineOf_ofNat? {n : Option Nat} (h : ∀ k ∈ n, k ≤ Numeral.lineLimit) : lineOf (some (.ofNat? n)) = n := by
  cases n with
  | none => rfl
  | some k =>
    have hk : k ≤ Numeral.lineLimit := h k rfl
    simp [lineOf, Value.ofNat?, Value.natural?, hk]

/-- A null in one of the first three places says as much as no field there. -/
theorem ofFields_concat_null (h : fields.length < 3) : ofFields id (fields ++ [.null]) = ofFields id fields := by
  have hfile : fileOf (fields ++ [Value.null])[0]? = fileOf fields[0]? := by
    cases fields with
    | nil => rfl
    | cons v fields => rfl
  have hline (i : Nat) : lineOf (fields ++ [Value.null])[i]? = lineOf fields[i]? := by
    rcases Nat.lt_trichotomy i fields.length with hi | rfl | hi
    · rw [List.getElem?_append_left hi]
    · rw [List.getElem?_concat_length, List.getElem?_eq_none (Nat.le_refl _)]
      rfl
    · rw [List.getElem?_eq_none (by simp; omega), List.getElem?_eq_none (by omega)]
  have hextras : (fields ++ [Value.null]).drop 3 = fields.drop 3 := by
    rw [List.drop_eq_nil_of_le (by simp; omega), List.drop_eq_nil_of_le (by omega)]
  rw [ofFields, ofFields, hfile, hline, hline, hextras]

theorem ofFields_append_nulls {dropped : Nat} (h : fields.length + dropped ≤ 3) :
    ofFields id (fields ++ List.replicate dropped .null) = ofFields id fields := by
  induction dropped with
  | zero => rw [List.replicate_zero, List.append_nil]
  | succ dropped ih =>
    rw [List.replicate_succ', ← List.append_assoc, ofFields_concat_null, ih (by omega)]
    rw [List.length_append, List.length_replicate]
    omega

theorem ofFields_fieldsOf (hr : r.Encodable) (hfields : r.FieldsOf fields) : ofFields r.id fields = .ok r := by
  obtain ⟨file, dropped, hfile, hdropped, heq⟩ := hfields
  have hall : ofFields r.id (file :: .ofNat? r.line :: .ofNat? r.column :: r.extras) = .ok r := by
    have hrecord : (⟨r.id, r.file, r.line, r.column, r.extras, false⟩ : Record) = r := by rw [← hr.decodable]
    simp only [ofFields, List.getElem?_cons_zero, List.getElem?_cons_succ, List.drop_succ_cons, List.drop_zero,
      fileOf_fileField hfile hr.file_ne, lineOf_ofNat? hr.line_le, lineOf_ofNat? hr.column_le, Except.map, hrecord]
  have hlength : fields.length + dropped = r.extras.length + 3 := by
    have hlen := congrArg List.length heq
    simpa using hlen
  rw [← hall, ← heq]
  rcases hdropped with hnone | rfl
  · rw [hnone, List.length_nil, Nat.zero_add] at hlength
    exact (ofFields_append_nulls (Nat.le_of_eq hlength)).symm
  · rw [List.replicate_zero, List.append_nil]

/-! ### Definitions -/

theorem FileField.fits {file : Option String} {v : Value} (h : FileField file v) (depth : Nat) : v.Fits depth := by
  cases h with
  | zero => exact Json.fits_integer.2 (by decide)
  | _ => cases depth <;> trivial

theorem fits_ofNat? {n : Option Nat} (h : ∀ k ∈ n, k ≤ Numeral.lineLimit) (depth : Nat) :
    (Value.ofNat? n).Fits depth := by
  cases n with
  | none => cases depth <;> trivial
  | some k =>
    have hk : k ≤ Numeral.lineLimit := h k rfl
    have hlimit : Numeral.lineLimit ≤ Numeral.wordLimit := by decide
    exact Json.fits_integer.2 ⟨by omega, by omega⟩

theorem fits_fieldsOf (hr : r.Encodable) (hfields : r.FieldsOf fields) :
    (Value.array fields).Fits Json.nestingLimit := by
  obtain ⟨file, dropped, hfile, -, heq⟩ := hfields
  refine Json.fits_array.2 ⟨Json.nestingLimit - 1, rfl, fun v hv => ?_⟩
  have hmem : v ∈ file :: .ofNat? r.line :: .ofNat? r.column :: r.extras := by
    rw [← heq]
    exact List.mem_append_left _ hv
  simp only [List.mem_cons] at hmem
  rcases hmem with rfl | rfl | rfl | hv
  · exact hfile.fits _
  · exact fits_ofNat? hr.line_le _
  · exact fits_ofNat? hr.column_le _
  · exact hr.extras_fit v hv

/-- Every text of the values that stand for a record is decoded to that record, the text without blanks among them. -/
theorem decode_encoded (hr : r.Encodable) (hfields : r.FieldsOf fields) :
    (∀ body text, Spells (.array fields) body → Spaced body text.toList → decode r.id text = .ok r) ∧
    decode r.id (Value.array fields).compact = .ok r := by
  have hfit := fits_fieldsOf hr hfields
  have hdecode : ∀ text, Value.read text = .ok (.array fields) → decode r.id text = .ok r := by
    intro text htext
    simp only [decode, Json.readItems_eq_ok_iff.2 htext]
    exact ofFields_fieldsOf hr hfields
  constructor
  · intro body text hbody htext
    exact hdecode text (Json.read_spelled hbody htext hfit)
  · exact hdecode _ (Json.read_compact hfit)

/-- A file written by the codes of its characters, a null column, and a further field whose names are not sorted. -/
theorem decode_encoded_sample :
    decode 7 " [\"\\u0061\\\"\\ud834\\uDD1E\" ,4294967295,null,\x7b\"b\" :[ ],\"a\":-1\x7d]\n" =
      .ok ⟨7, some "a\"𝄞", some 4294967295, none, [.object [("a", .integer (-1)), ("b", .array [])]], false⟩ := by
  have hfields : FieldsOf
      ⟨7, some "a\"𝄞", some 4294967295, none, [.object [("a", .integer (-1)), ("b", .array [])]], false⟩
      [.string "a\"𝄞", .integer 4294967295, .null, .object [("a", .integer (-1)), ("b", .array [])]] :=
    ⟨_, 0, .named _, .inr rfl, rfl⟩
  have hsorted : "a" < "b" := by
    show "a".toList < "b".toList
    decide
  have hfits : (Value.object [("a", .integer (-1)), ("b", .array [])]).Fits (Json.nestingLimit - 1) := by
    refine Json.fits_object.2 ⟨125, rfl, List.pairwise_pair.2 hsorted, fun p hp => ?_⟩
    simp only [List.mem_cons, List.not_mem_nil, or_false] at hp
    rcases hp with rfl | rfl
    · exact Json.fits_integer.2 (by decide)
    · exact Json.fits_array.2 ⟨124, rfl, nofun⟩
  have ha : Json.SpellsChar 'a' ['\\', 'u', '0', '0', '6', '1'] := .code ⟨rfl, by decide⟩
  have hquote : Json.SpellsChar '"' ['\\', '"'] := .sign (by decide)
  have hclef : Json.SpellsChar '𝄞' ['\\', 'u', 'd', '8', '3', '4', '\\', 'u', 'D', 'D', '1', 'E'] :=
    @Json.SpellsChar.pair '𝄞' 0x34 0x11E ['d', '8', '3', '4'] ['D', 'D', '1', 'E'] ⟨rfl, by decide⟩ ⟨rfl, by decide⟩
      (by decide) (by decide) (by decide)
  have hfile : Json.SpellsString "a\"𝄞" _ := ⟨_, .cons ha (.cons hquote (.cons hclef .nil)), rfl⟩
  have hblank : Json.Gap [' '] := by simp [Json.Gap, Json.isGap]
  have hb : Spaced (Json.quote "b").toList ((Json.quote "b").toList ++ [' ']) := ⟨[], [' '], Json.gap_nil, hblank, rfl⟩
  have hobject : Spells (.object [("a", .integer (-1)), ("b", .array [])]) _ :=
    .object (.cons (Json.spellsString_quote "b") hb (.array .nil hblank) (.refl _)
      (.cons (Json.spellsString_quote "a") (.refl _) (.integer (-1)) (.refl _) .nil)) (.swap _ _ _) Json.gap_nil
  have hbody : Spells (.array [.string "a\"𝄞", .integer 4294967295, .null,
      .object [("a", .integer (-1)), ("b", .array [])]]) _ :=
    .array (.cons (.string hfile) ⟨[], [' '], Json.gap_nil, hblank, rfl⟩ (.cons (.integer 4294967295) (.refl _)
      (.cons .null (.refl _) (.cons hobject (.refl _) .nil)))) Json.gap_nil
  refine (decode_encoded ⟨by decide, ?_, ?_, ?_, rfl⟩ hfields).1 _ _ hbody
    ⟨[' '], ['\n'], hblank, by simp [Json.Gap, Json.isGap], ?_⟩
  · intro n hn
    cases hn
    decide
  · intro n hn
    cases hn
  · intro v hv
    cases List.mem_singleton.1 hv
    exact hfits
  · decide

end Record

end LineAtlas
