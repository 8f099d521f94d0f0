import LineAtlas.Proofs.LineMap.Grammar
import Mathlib.Order.Bounds.Basic

/-!
# The first faulty line

The number of generated lines says for each line behind the header what may stand there (`Acceptable`).  `flawAt?` is
what the reader has to say about a line in its place, and the reader reports the first line about which it has anything
to say.

The key facts: a line has a flaw exactly if it is not acceptable in its place (`flawAt?_eq_none_iff`), the flaw bears
the number of the line (`line?_of_flawAt?`), and the fault of a text with enough lines is the first flaw of one of them
(`error?_readBody`).
-/

namespace LineAtlas.LineMap

/-- The line on which a flaw was found, for a row or a marker that is not as it should be. -/
def Flaw.line? : Flaw → Option Nat
  | .comment line _ | .malformed line _ _ | .wrongMarker _ line _ => some line
  | _ => none

/-- What may stand on a line behind the header of a file with `count` generated lines. -/
structure Acceptable (count number : Nat) (line : String) : Prop where
  charMapRow : number ≤ count + 1 → ∃ m, IsCharMapRow line m
  fileMarker : number = count + 2 → Text.trim line = Part.fileLists.marker
  fileRow : count + 3 ≤ number → number ≤ 2 * count + 2 → ∃ files, IsFileRow line files
  definitionMarker : number = 2 * count + 3 → Text.trim line = Part.definitions.marker

/-- What is wrong with a row of character slots, if anything is. -/
def charMapFlaw? (number : Nat) (line : String) : Option Flaw :=
  (readRow .charMaps .empty (fun s => (CharMap.read s).mapError .charMap) number line).error?

/-- What is wrong with a row of source files, if anything is. -/
def fileListFlaw? (number : Nat) (line : String) : Option Flaw :=
  (readRow .fileLists [] (fun s => (Json.readStrings s).mapError .fileList) number line).error?

/-- What is wrong with a line where the marker of a part should stand, if anything is. -/
def markerFlaw? (part : Part) (number : Nat) (line : String) : Option Flaw := (checkMarker part number [line]).error?

/-- What is wrong with a line in its place, if anything is. -/
def flawAt? (count number : Nat) (line : String) : Option Flaw :=
  if number ≤ count + 1 then charMapFlaw? number line
  else if number = count + 2 then markerFlaw? .fileLists number line
  else if number ≤ 2 * count + 2 then fileListFlaw? number line
  else if number = 2 * count + 3 then markerFlaw? .definitions number line
  else none

/-- The message about a line names its number, and no more digits follow. -/
theorem exists_message {flaw : Flaw} {k : Nat} (hk : flaw.line? = some k) :
    ∃ before after, flaw.message = before ++ "line " ++ Numeral.ofNat k ++ after ∧
      ∀ c ∈ after.toList.head?, c.isDigit = false := by
  cases flaw with
  | comment number part =>
    obtain rfl : number = k := Option.some.inj hk
    have hwords : "unexpected comment on line " = "unexpected comment on " ++ "line " := by simp
    refine ⟨"unexpected comment on ", " in " ++ part.name, ?_, by simp⟩
    unfold Flaw.message
    dsimp only
    rw [hwords]
    simp only [String.append_assoc]
  | malformed number part fault =>
    obtain rfl : number = k := Option.some.inj hk
    have hwords : "malformed line " = "malformed " ++ "line " := by simp
    refine ⟨"malformed ", " in " ++ part.name ++ ": " ++ fault.message, ?_, by simp⟩
    unfold Flaw.message
    dsimp only
    rw [hwords]
    simp only [String.append_assoc]
  | wrongMarker part number found =>
    obtain rfl : number = k := Option.some.inj hk
    have hwords : "' on line " = "' on " ++ "line " := by simp
    refine ⟨"expected '" ++ part.marker ++ "' on ", ", found '" ++ found ++ "'", ?_, by simp⟩
    unfold Flaw.message
    dsimp only
    rw [hwords]
    simp only [String.append_assoc]
  | _ => cases hk

/-! ### The flaw of a line -/

section Rows

variable {α : Type} {part : Part} {blank : α} {decode : String → Except RowFault α} {number count : Nat}
  {line : String} {lines : List String} {flaw : Flaw}

theorem line?_of_readRow (h : readRow part blank decode number line = .error flaw) : flaw.line? = some number := by
  unfold readRow at h
  dsimp only at h
  split at h
  · cases h
  · split at h
    · cases h
      rfl
    · obtain ⟨fault, -, rfl⟩ := Except.mapError_eq_error_iff.1 h
      rfl

theorem markerFlaw?_eq : markerFlaw? part number line =
    if Text.trim line = part.marker then none else some (.wrongMarker part number (Text.trim line)) := by
  have start : markerFlaw? part number line = (if Text.trim line = part.marker then Except.ok ()
      else .error (.wrongMarker part number (Text.trim line)) : Except Flaw Unit).error? := rfl
  rw [start]
  split <;> rfl

theorem line?_of_markerFlaw? (h : markerFlaw? part number line = some flaw) : flaw.line? = some number := by
  rw [markerFlaw?_eq] at h
  split at h
  · cases h
  · cases h
    rfl

theorem markerFlaw?_eq_none_iff : markerFlaw? part number line = none ↔ Text.trim line = part.marker := by
  rw [markerFlaw?_eq]
  split
  · exact iff_of_true rfl ‹_›
  · exact iff_of_false nofun ‹_›

theorem error?_readRow_eq_none_iff {Reads : String → α → Prop} (hreads : ∀ s v, decode s = .ok v ↔ Reads s v) :
    (readRow part blank decode number line).error? = none ↔ ∃ v, IsRow blank Reads line v := by
  rw [Except.error?_eq_none_iff]
  exact exists_congr fun v => readRow_eq_ok_iff hreads

/-- Where there are enough lines, what is wrong with the rows is the first flaw of one of them. -/
theorem error?_readRows (hcount : count ≤ lines.length) :
    (readRows part blank decode number count lines).error? =
      ((lines.take count).zipIdx number).findSome? fun x => (readRow part blank decode x.2 x.1).error? := by
  unfold readRows
  rw [← Except.error?_mapM]
  refine (Except.error?_bind fun rows hrows => ?_).trans (Option.or_none ..)
  -- As many rows were read as there are lines, so that the text did not end among them.
  have hlength : (lines.take count).length = rows.length := by
    simpa using (Except.mapM_eq_ok_iff.1 hrows).length_eq
  rw [List.length_take] at hlength
  rw [if_neg (by omega)]
  rfl

end Rows

/-! ### Places -/

section Places

variable {count number : Nat} {line : String}

private theorem places (count number : Nat) :
    number ≤ count + 1 ∨ number = count + 2 ∨ count + 3 ≤ number ∧ number ≤ 2 * count + 2 ∨ number = 2 * count + 3 ∨
      2 * count + 4 ≤ number := by
  omega

theorem flawAt?_charMapRow (h : number ≤ count + 1) : flawAt? count number line = charMapFlaw? number line := if_pos h

theorem flawAt?_fileMarker : flawAt? count (count + 2) line = markerFlaw? .fileLists (count + 2) line := by
  unfold flawAt?
  rw [if_neg (by omega), if_pos rfl]

theorem flawAt?_fileRow (hle : count + 3 ≤ number) (h : number ≤ 2 * count + 2) :
    flawAt? count number line = fileListFlaw? number line := by
  unfold flawAt?
  rw [if_neg (by omega), if_neg (by omega), if_pos h]

theorem flawAt?_definitionMarker :
    flawAt? count (2 * count + 3) line = markerFlaw? .definitions (2 * count + 3) line := by
  unfold flawAt?
  rw [if_neg (by omega), if_neg (by omega), if_neg (by omega), if_pos rfl]

theorem flawAt?_definition (h : 2 * count + 4 ≤ number) : flawAt? count number line = none := by
  unfold flawAt?
  rw [if_neg (by omega), if_neg (by omega), if_neg (by omega), if_neg (by omega)]

theorem line?_of_flawAt? {flaw : Flaw} (h : flawAt? count number line = some flaw) : flaw.line? = some number := by
  obtain hplace | rfl | ⟨hle, hplace⟩ | rfl | hplace := places count number
  · rw [flawAt?_charMapRow hplace] at h
    exact line?_of_readRow (Except.error?_eq_some_iff.1 h)
  · rw [flawAt?_fileMarker] at h
    exact line?_of_markerFlaw? h
  · rw [flawAt?_fileRow hle hplace] at h
    exact line?_of_readRow (Except.error?_eq_some_iff.1 h)
  · rw [flawAt?_definitionMarker] at h
    exact line?_of_markerFlaw? h
  · rw [flawAt?_definition hplace] at h
    cases h

theorem flawAt?_eq_none_iff : flawAt? count number line = none ↔ Acceptable count number line := by
  obtain hplace | rfl | ⟨hle, hplace⟩ | rfl | hplace := places count number
  · rw [flawAt?_charMapRow hplace, charMapFlaw?, error?_readRow_eq_none_iff charMap_read_iff]
    exact ⟨fun h => ⟨fun _ => h, by omega, by omega, by omega⟩, fun h => h.charMapRow hplace⟩
  · rw [flawAt?_fileMarker, markerFlaw?_eq_none_iff]
    exact ⟨fun h => ⟨by omega, fun _ => h, by omega, by omega⟩, fun h => h.fileMarker rfl⟩
  · rw [flawAt?_fileRow hle hplace, fileListFlaw?, error?_readRow_eq_none_iff fileList_read_iff]
    exact ⟨fun h => ⟨by omega, by omega, fun _ _ => h, by omega⟩, fun h => h.fileRow hle hplace⟩
  · rw [flawAt?_definitionMarker, markerFlaw?_eq_none_iff]
    exact ⟨fun h => ⟨by omega, by omega, by omega, fun _ => h⟩, fun h => h.definitionMarker rfl⟩
  · rw [flawAt?_definition hplace]
    exact iff_of_true rfl ⟨by omega, by omega, by omega, by omega⟩

end Places

/-! ### The first flaw of a text -/

private theorem findSome?_cons_eq_or {α β : Type} (f : α → Option β) (x : α) (l : List α) :
    (x :: l).findSome? f = (f x).or (l.findSome? f) := by
  rw [List.findSome?_cons]
  cases f x <;> rfl

private theorem findSome?_congr {α β : Type} {f g : α → Option β} {l : List α} (h : ∀ x ∈ l, f x = g x) :
    l.findSome? f = l.findSome? g := by
  induction l with
  | nil => rfl
  | cons x l ih =>
    rw [List.findSome?_cons, List.findSome?_cons, h x List.mem_cons_self,
      ih fun y hy => h y (List.mem_cons_of_mem x hy)]

section Bodies

variable {count : Nat} {body : List String}

/-- The first flaw of some lines behind the header, of which the first has a given number. -/
def firstFlaw? (count number : Nat) (lines : List String) : Option Flaw :=
  (lines.zipIdx number).findSome? fun x => flawAt? count x.2 x.1

theorem firstFlaw?_append (number : Nat) (lines more : List String) : firstFlaw? count number (lines ++ more) =
    (firstFlaw? count number lines).or (firstFlaw? count (number + lines.length) more) := by
  unfold firstFlaw?
  rw [List.zipIdx_append, List.findSome?_append]

theorem firstFlaw?_cons (number : Nat) (line : String) (lines : List String) : firstFlaw? count number (line :: lines) =
    (flawAt? count number line).or (firstFlaw? count (number + 1) lines) := findSome?_cons_eq_or ..

theorem firstFlaw?_charMaps (h : count ≤ body.length) : firstFlaw? count 2 (body.take count) =
    (readRows .charMaps .empty (fun s => (CharMap.read s).mapError .charMap) 2 count body).error? := by
  rw [error?_readRows h]
  refine findSome?_congr fun x hx => flawAt?_charMapRow ?_
  obtain ⟨-, hlt, -⟩ := List.mem_zipIdx hx
  rw [List.length_take] at hlt
  omega

theorem firstFlaw?_fileLists (h : count ≤ body.length) : firstFlaw? count (count + 3) (body.take count) =
    (readRows .fileLists [] (fun s => (Json.readStrings s).mapError .fileList) (count + 3) count body).error? := by
  rw [error?_readRows h]
  refine findSome?_congr fun x hx => ?_
  obtain ⟨hle, hlt, -⟩ := List.mem_zipIdx hx
  rw [List.length_take] at hlt
  exact flawAt?_fileRow hle (by omega)

theorem firstFlaw?_definitions (definitions : List String) :
    firstFlaw? count (2 * count + 4) definitions = none := by
  refine List.findSome?_eq_none_iff.2 fun x hx => ?_
  obtain ⟨hle, -, -⟩ := List.mem_zipIdx hx
  exact flawAt?_definition hle

/-- Enough lines are rows for each generated line, a marker, as many rows, a marker, and definitions. -/
theorem firstFlaw?_parts (hroom : 2 * count + 2 ≤ body.length) : firstFlaw? count 2 body =
    (firstFlaw? count 2 (body.take count)).or ((flawAt? count (count + 2) body[count]).or
      ((firstFlaw? count (count + 3) ((body.drop (count + 1)).take count)).or
        ((flawAt? count (2 * count + 3) body[2 * count + 1]).or
          (firstFlaw? count (2 * count + 4) (body.drop (2 * count + 2)))))) := by
  have hcharMaps : (body.take count).length = count := by
    rw [List.length_take]
    omega
  have hfileLists : ((body.drop (count + 1)).take count).length = count := by
    rw [List.length_take, List.length_drop]
    omega
  have hfirst : body.drop count = body[count] :: body.drop (count + 1) := List.drop_eq_getElem_cons (by omega)
  have hsecond : (body.drop (count + 1)).drop count = body[2 * count + 1] :: body.drop (2 * count + 2) := by
    rw [List.drop_drop, show count + 1 + count = 2 * count + 1 by omega, List.drop_eq_getElem_cons (by omega)]
  conv_lhs => rw [← List.take_append_drop count body, hfirst, ← List.take_append_drop count (body.drop (count + 1)),
    hsecond]
  rw [firstFlaw?_append, firstFlaw?_cons, firstFlaw?_append, firstFlaw?_cons, hcharMaps, hfileLists,
    show 2 + count = count + 2 by omega, show count + 2 + 1 + count = 2 * count + 3 by omega]

/-- The fault of a text with enough lines behind its header is the first flaw of one of them. -/
theorem error?_readBody (script : String) (hroom : 2 * count + 2 ≤ body.length) :
    (readBody script count body).error? = firstFlaw? count 2 body := by
  have hfirst : body.drop count = body[count] :: body.drop (count + 1) := List.drop_eq_getElem_cons (by omega)
  have hsecond : body.drop (2 * count + 1) = body[2 * count + 1] :: body.drop (2 * count + 2) :=
    List.drop_eq_getElem_cons (by omega)
  have hrows : count ≤ (body.drop (count + 1)).length := by
    rw [List.length_drop]
    omega
  unfold readBody
  refine (Except.error?_bind fun _ _ => Except.error?_bind fun _ _ => Except.error?_bind fun _ _ =>
    Except.error?_bind fun _ _ => Except.error?_eq_none_iff.2 ⟨_, rfl⟩).trans ?_
  rw [firstFlaw?_parts hroom, hfirst, hsecond, firstFlaw?_charMaps (by omega), flawAt?_fileMarker,
    firstFlaw?_fileLists hrows, flawAt?_definitionMarker, firstFlaw?_definitions]
  rfl

end Bodies

/-- Going through a list, the first answer is that of an item before which no other has one. -/
private theorem findSome?_zipIdx_eq_some_iff {α β : Type} {f : α → Nat → Option β} {l : List α} {n : Nat} {b : β} :
    (l.zipIdx n).findSome? (fun x => f x.1 x.2) = some b ↔
      ∃ i a, l[i]? = some a ∧ f a (n + i) = some b ∧ ∀ j < i, ∀ a', l[j]? = some a' → f a' (n + j) = none := by
  induction l generalizing n with
  | nil => simp
  | cons x l ih =>
    rw [List.zipIdx_cons, findSome?_cons_eq_or, Option.or_eq_some_iff, ih]
    constructor
    · rintro (h | ⟨hx, i, a, ha, hb, hbefore⟩)
      · exact ⟨0, x, rfl, h, fun j hj => by omega⟩
      · refine ⟨i + 1, a, ha, ?_, fun j hj a' ha' => ?_⟩
        · rwa [show n + (i + 1) = n + 1 + i by omega]
        · cases j with
          | zero =>
            obtain rfl : x = a' := Option.some.inj ha'
            exact hx
          | succ j =>
            rw [show n + (j + 1) = n + 1 + j by omega]
            exact hbefore j (by omega) a' ha'
    · rintro ⟨i, a, ha, hb, hbefore⟩
      cases i with
      | zero =>
        obtain rfl : x = a := Option.some.inj ha
        exact .inl hb
      | succ i =>
        refine .inr ⟨hbefore 0 (by omega) x rfl, i, a, ha, ?_, fun j hj a' ha' => ?_⟩
        · rwa [show n + 1 + i = n + (i + 1) by omega]
        · rw [show n + 1 + j = n + (j + 1) by omega]
          exact hbefore (j + 1) (by omega) a' ha'

theorem firstFlaw?_eq_some_iff {count : Nat} {lines : List String} {flaw : Flaw} :
    firstFlaw? count 2 (lines.drop 1) = some flaw ↔
      ∃ k line, 2 ≤ k ∧ atLine? lines k = some line ∧ flawAt? count k line = some flaw ∧
        ∀ number, 2 ≤ number → number < k → ∀ line, atLine? lines number = some line →
          Acceptable count number line := by
  have hplace (i : Nat) : (lines.drop 1)[i]? = atLine? lines (2 + i) := by
    rw [List.getElem?_drop, atLine?_of_pos _ (by omega), show 2 + i - 1 = 1 + i by omega]
  unfold firstFlaw?
  rw [findSome?_zipIdx_eq_some_iff (f := fun line number => flawAt? count number line)]
  simp only [hplace, flawAt?_eq_none_iff]
  constructor
  · rintro ⟨i, line, hline, hflaw, hbefore⟩
    refine ⟨2 + i, line, by omega, hline, hflaw, fun number hle hlt line' hline' => ?_⟩
    obtain ⟨j, rfl⟩ := Nat.exists_eq_add_of_le hle
    exact hbefore j (by omega) line' hline'
  · rintro ⟨k, line, hle, hline, hflaw, hbefore⟩
    obtain ⟨i, rfl⟩ := Nat.exists_eq_add_of_le hle
    exact ⟨i, line, hline, hflaw, fun j hj line' hline' => hbefore (2 + j) (by omega) (by omega) line' hline'⟩

/-! ### The whole text -/

/-- A flaw of the header line. -/
inductive Flaw.OfHeader : Flaw → Prop where
  | noHeader : OfHeader .noHeader
  | noPayload : OfHeader .noPayload
  | badPayload (fault : Json.Fault) : OfHeader (.badPayload fault)
  | noCount : OfHeader .noCount
  | badCount (v : Json.Value) : OfHeader (.badCount v)

theorem ofHeader_of_countOf {payload : String} {flaw : Flaw} (h : countOf payload = .error flaw) : flaw.OfHeader := by
  unfold countOf at h
  split at h
  · cases h
    exact .badPayload _
  · split at h
    · cases h
      exact .noCount
    · split at h
      · cases h
        exact .badCount _
      · cases h

theorem ofHeader_of_readHeader {line : String} {flaw : Flaw} (h : readHeader line = .error (.format flaw)) :
    flaw.OfHeader := by
  unfold readHeader at h
  dsimp only at h
  split at h
  · split at h
    · cases h
    · cases h
      exact .noHeader
  · split at h
    · obtain ⟨cause, hcause, hflaw⟩ := Except.mapError_eq_error_iff.1 h
      cases hflaw
      exact ofHeader_of_countOf hcause
    · cases h
      exact .noPayload

variable {script : String} {lines : List String}

theorem read_of_short (script : String) (h : lines.length < 4) :
    read script lines = .error (.format (.tooShort lines.length)) := by
  cases lines with
  | nil => rfl
  | cons header body =>
    unfold read
    dsimp only
    rw [if_pos (show (header :: body).length < leastLines from h)]

/-- What the reader does with enough lines and a header that declares a number of generated lines. -/
theorem read_of_declares (script : String) {header : String} {count : Nat} (hleast : 4 ≤ lines.length)
    (hheader : atLine? lines 1 = some header) (hdeclares : Declares header count) :
    read script lines =
      if lines.length < 3 + 2 * count then .error (.format (.noRoom count ((lines.length - 3) / 2)))
      else (readBody script count (lines.drop 1)).mapError .format := by
  obtain ⟨first, hfirst, hread⟩ := read_of_least script hleast
  obtain rfl : header = first := Option.some.inj (hheader.symm.trans hfirst)
  rw [hread, readHeader_eq_ok_iff.2 hdeclares]
  dsimp only
  by_cases hroom : lines.length < 3 + 2 * count
  · rw [if_pos (by omega), if_pos hroom]
  · rw [if_neg (by omega), if_neg hroom]

/-- The faults of the format, by the part of the text with which they lie. -/
theorem read_eq_format_cases {flaw : Flaw} (h : read script lines = .error (.format flaw)) :
    flaw = .tooShort lines.length ∨ flaw.OfHeader ∨
      4 ≤ lines.length ∧ ∃ header count, atLine? lines 1 = some header ∧ Declares header count ∧
        (lines.length < 3 + 2 * count ∧ flaw = .noRoom count ((lines.length - 3) / 2) ∨
          3 + 2 * count ≤ lines.length ∧ firstFlaw? count 2 (lines.drop 1) = some flaw) := by
  by_cases hleast : 4 ≤ lines.length
  · obtain ⟨header, hheader, hread⟩ := read_of_least script hleast
    cases hcount : readHeader header with
    | error fault =>
      rw [hread, hcount] at h
      cases h
      exact .inr (.inl (ofHeader_of_readHeader hcount))
    | ok count =>
      have hdeclares := readHeader_eq_ok_iff.1 hcount
      refine .inr (.inr ⟨hleast, header, count, hheader, hdeclares, ?_⟩)
      rw [read_of_declares script hleast hheader hdeclares] at h
      split at h
      · cases h
        exact .inl ⟨‹_›, rfl⟩
      · obtain ⟨cause, hcause, hflaw⟩ := Except.mapError_eq_error_iff.1 h
        cases hflaw
        have hroom : 2 * count + 2 ≤ (lines.drop 1).length := by
          rw [List.length_drop]
          omega
        exact .inr ⟨by omega, (error?_readBody script hroom).symm.trans (Except.error?_eq_some_iff.2 hcause)⟩
  · rw [read_of_short script (Nat.not_le.1 hleast)] at h
    cases h
    exact .inl rfl

/-- A flaw of a row or a marker is the fault of the texts in which it is the first. -/
theorem read_eq_flaw_iff {flaw : Flaw} {k : Nat} (hk : flaw.line? = some k) :
    read script lines = .error (.format flaw) ↔
      4 ≤ lines.length ∧ ∃ header count line, atLine? lines 1 = some header ∧ Declares header count ∧
        3 + 2 * count ≤ lines.length ∧ 2 ≤ k ∧ atLine? lines k = some line ∧ flawAt? count k line = some flaw ∧
        ∀ number, 2 ≤ number → number < k → ∀ line, atLine? lines number = some line →
          Acceptable count number line := by
  constructor
  · intro h
    obtain rfl | hheader | ⟨hleast, header, count, hheader, hdeclares, ⟨-, rfl⟩ | ⟨hroom, hfirst⟩⟩ :=
      read_eq_format_cases h
    · cases hk
    · cases hheader <;> cases hk
    · cases hk
    · obtain ⟨number, line, hle, hline, hflaw, hbefore⟩ := firstFlaw?_eq_some_iff.1 hfirst
      obtain rfl : number = k := Option.some.inj ((line?_of_flawAt? hflaw).symm.trans hk)
      exact ⟨hleast, header, count, line, hheader, hdeclares, hroom, hle, hline, hflaw, hbefore⟩
  · rintro ⟨hleast, header, count, line, hheader, hdeclares, hroom, hle, hline, hflaw, hbefore⟩
    have hbody : 2 * count + 2 ≤ (lines.drop 1).length := by
      rw [List.length_drop]
      omega
    rw [read_of_declares script hleast hheader hdeclares, if_neg (by omega), Except.mapError_eq_error_iff]
    refine ⟨flaw, ?_, rfl⟩
    rw [← Except.error?_eq_some_iff, error?_readBody script hbody, firstFlaw?_eq_some_iff]
    exact ⟨k, line, hle, hline, hflaw, hbefore⟩

/-- A text that fails in a row or at a marker fails with the first line behind its header that is not acceptable in its
place, and its message names the number of that line, behind which no digit follows.  Every other text with as many
lines that has the same lines up to that one fails with the same fault. -/
theorem first_faulty_line_decides {flaw : Flaw} {k : Nat} (h : read script lines = .error (.format flaw))
    (hk : flaw.line? = some k) :
    (∃ header count, atLine? lines 1 = some header ∧ Declares header count ∧
      IsLeast {number | 2 ≤ number ∧ ∃ line, atLine? lines number = some line ∧ ¬ Acceptable count number line} k) ∧
    (∃ before after, flaw.message = before ++ "line " ++ Numeral.ofNat k ++ after ∧
      ∀ c ∈ after.toList.head?, c.isDigit = false) ∧
    ∀ other : List String, other.length = lines.length → other.take k = lines.take k →
      read script other = .error (.format flaw) := by
  obtain ⟨hleast, header, count, line, hheader, hdeclares, hroom, hle, hline, hflaw, hbefore⟩ :=
    (read_eq_flaw_iff hk).1 h
  refine ⟨⟨header, count, hheader, hdeclares, ⟨hle, line, hline, ?_⟩, ?_⟩, ?_, fun other hlength hsame => ?_⟩
  · rw [← flawAt?_eq_none_iff, hflaw]
    exact nofun
  · rintro number ⟨hnumber, line', hline', hbad⟩
    by_contra hlt
    exact hbad (hbefore number hnumber (by omega) line' hline')
  · exact exists_message hk
  · have hplace {number : Nat} (hnumber : number ≤ k) : atLine? other number = atLine? lines number := by
      rw [← atLine?_take _ hnumber, hsame, atLine?_take _ hnumber]
    refine (read_eq_flaw_iff hk).2 ⟨by omega, header, count, line, ?_, hdeclares, by omega, hle, ?_, hflaw, ?_⟩
    · rw [hplace (by omega)]
      exact hheader
    · rw [hplace (Nat.le_refl k)]
      exact hline
    · intro number hnumber hlt line' hline'
      rw [hplace (by omega)] at hline'
      exact hbefore number hnumber hlt line' hline'

/-- The sample text with a comment behind a list of files. -/
def commentSample : List String := textSample.set 5 "[\"a.js\"] /* */"

/-- The comment on the sixth line is the fault also where a marker is missing later on. -/
theorem first_faulty_line_decides_sample :
    read "out.js" commentSample = .error (.format (.comment 6 .fileLists)) ∧
    (Flaw.comment 6 .fileLists).line? = some 6 ∧
    (commentSample.set 6 "[]").length = commentSample.length ∧
    (commentSample.set 6 "[]").take 6 = commentSample.take 6 ∧
    read "out.js" (commentSample.set 6 "[]") = .error (.format (.comment 6 .fileLists)) := by
  have hread : read "out.js" commentSample = .error (.format (.comment 6 .fileLists)) := rfl
  obtain ⟨-, -, others⟩ := first_faulty_line_decides hread rfl
  exact ⟨hread, rfl, rfl, rfl, others _ rfl rfl⟩

end LineAtlas.LineMap
