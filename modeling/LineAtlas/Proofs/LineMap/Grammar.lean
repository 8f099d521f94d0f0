import LineAtlas.LineMap.Reader
import LineAtlas.Proofs.Json.Kinds
import LineAtlas.Proofs.Text.Search

/-!
# The grammar of line-map files

`IsText` says which lines are those of a file that describes a number of generated lines, `IsTextOf` which line map
they describe.  Lines are counted from one: generated line `l` has its character map on line `1 + l` and its source
files on line `2 + count + l`.  The reader takes these texts and no others.

The key facts are one equivalence for each part of the reader: the header (`readHeader_eq_ok_iff`), the rows of a part
(`readRows_eq_ok_iff`, `exists_readRows_iff`), the markers (`checkMarker_eq_ok_iff`), and the whole (`read_eq_ok_iff`).
-/

namespace LineAtlas.LineMap

/-! ### The grammar -/

/-- A row that stands for `v`: a blank one says nothing; any other is free of comments and read as `v`. -/
def IsRow {α : Type} (blank : α) (Reads : String → α → Prop) (line : String) (v : α) : Prop :=
  if Text.trim line = "" then v = blank
  else ¬ ['/', '*'] <:+: (Text.trim line).toList ∧ Reads (Text.trim line) v

/-- A row that stands for a character map. -/
def IsCharMapRow : String → CharMap → Prop := IsRow .empty fun s m => CharMap.read s = .ok m

/-- A row that stands for a list of source files, which is a JSON array of strings. -/
def IsFileRow : String → List String → Prop :=
  IsRow [] fun s files => Json.Value.read s = .ok (.array (files.map .string))

/-- A header line: its marker, and an object whose field `count` is a number of 64 bits. -/
def Declares (line : String) (count : Nat) : Prop :=
  ∃ payload fields, Text.trim line = Part.charMaps.marker ++ payload ∧
    (Text.trim payload).toList.head? = some '\x7b' ∧ Json.Value.read (Text.trim payload) = .ok (.object fields) ∧
    fields.lookup "count" = some (.integer count) ∧ count ≤ Numeral.wordLimit

/-- The lines of a file that describes `count` generated lines. -/
structure IsText (lines : List String) (count : Nat) : Prop where
  least : 4 ≤ lines.length
  header : ∃ line, atLine? lines 1 = some line ∧ Declares line count
  room : 3 + 2 * count ≤ lines.length
  charMapRow : ∀ l, 1 ≤ l → l ≤ count → ∃ line m, atLine? lines (1 + l) = some line ∧ IsCharMapRow line m
  fileMarker : (atLine? lines (count + 2)).map Text.trim = some Part.fileLists.marker
  fileRow : ∀ l, 1 ≤ l → l ≤ count → ∃ line files, atLine? lines (2 + count + l) = some line ∧ IsFileRow line files
  definitionMarker : (atLine? lines (2 * count + 3)).map Text.trim = some Part.definitions.marker

/-- The lines of a file that describes a line map, each part of which stands for the row in its place. -/
structure IsTextOf (lines : List String) (m : LineMap) : Prop where
  isText : IsText lines m.lineCount
  hasCharMap : ∀ l, (m.charMap? l).isSome = true ↔ 1 ≤ l ∧ l ≤ m.lineCount
  hasFiles : ∀ l, (m.files? l).isSome = true ↔ 1 ≤ l ∧ l ≤ m.lineCount
  charMap : ∀ l c, m.charMap? l = some c → ∃ line, atLine? lines (1 + l) = some line ∧ IsCharMapRow line c
  files : ∀ l files, m.files? l = some files →
    ∃ line, atLine? lines (2 + m.lineCount + l) = some line ∧ IsFileRow line files
  definition : ∀ id, m.definitions[id]? = (atLine? lines (2 * m.lineCount + 4 + id)).map Text.trim

/-! ### The header -/

theorem countOf_eq_ok_iff {payload : String} {count : Nat} :
    countOf payload = .ok count ↔
      ∃ fields, Json.Value.read payload = .ok (.object fields) ∧ fields.lookup "count" = some (.integer count) := by
  constructor
  · intro h
    unfold countOf at h
    split at h
    · cases h
    · rename_i header hheader
      split at h
      · cases h
      · rename_i v hv
        split at h
        · cases h
        · rename_i n hn
          cases h
          obtain ⟨fields, rfl, hlookup⟩ := Json.Value.field?_eq_some_iff.1 hv
          rw [Json.Value.natural?_eq_some_iff.1 hn] at hlookup
          exact ⟨fields, hheader, hlookup⟩
  · rintro ⟨fields, hread, hlookup⟩
    have hcount : Json.Value.natural? (.integer count) = some count := Json.Value.natural?_eq_some_iff.2 rfl
    simp only [countOf, hread, Json.Value.field?, hlookup, hcount]

theorem readHeader_eq_ok_iff {line : String} {count : Nat} : readHeader line = .ok count ↔ Declares line count := by
  constructor
  · intro h
    unfold readHeader at h
    dsimp only at h
    split at h
    · split at h
      · cases h
      · cases h
    · rename_i rest hrest
      split at h
      · rename_i hbrace
        obtain ⟨fields, hread, hlookup⟩ := countOf_eq_ok_iff.1 (Except.mapError_eq_ok_iff.1 h)
        refine ⟨String.ofList rest, fields, ?_, ?_, ?_, hlookup, ?_⟩
        · rw [← String.toList_inj, Text.toList_trim, String.toList_append, String.toList_ofList]
          exact Text.after?_eq_some_iff.1 hrest
        · rw [Text.toList_trim, String.toList_ofList]
          exact hbrace
        · rw [Text.trim, String.toList_ofList]
          exact hread
        · -- The reader does not ask for 64 bits here: no larger integer comes out of the text.
          exact Int.ofNat_le.1 (Json.integer_le_of_field hread hlookup)
      · cases h
  · rintro ⟨payload, fields, hmarker, hbrace, hread, hlookup, -⟩
    have hafter : Text.after? Part.charMaps.marker.toList (Text.trimChars line.toList) = some payload.toList := by
      rw [Text.after?_eq_some_iff, ← Text.toList_trim, hmarker, String.toList_append]
    rw [Text.toList_trim] at hbrace
    unfold readHeader
    simp only [hafter, hbrace, if_true]
    exact Except.mapError_eq_ok_iff.2 (countOf_eq_ok_iff.2 ⟨fields, hread, hlookup⟩)

theorem readHeader_eq_incompatible_iff {line text : String} :
    readHeader line = .error (.incompatible text) ↔ text = Text.trim line ∧
      ¬ Part.charMaps.marker.toList <+: text.toList ∧ "source map".toList <:+: text.toList := by
  unfold readHeader
  dsimp only
  split
  · rename_i hnone
    rw [Text.after?_eq_none_iff, ← Text.toList_trim] at hnone
    rw [← Text.toList_trim, String.ofList_toList]
    split
    · rename_i hnewer
      rw [Text.contains_eq_true_iff] at hnewer
      constructor
      · intro h
        cases h
        exact ⟨rfl, hnone, hnewer⟩
      · rintro ⟨rfl, -, -⟩
        rfl
    · rename_i hnewer
      rw [Text.contains_eq_true_iff] at hnewer
      refine ⟨nofun, ?_⟩
      rintro ⟨rfl, -, h⟩
      exact absurd h hnewer
  · -- After its own marker a header is at worst ill-formed.
    rename_i rest hrest
    have hprefix : Part.charMaps.marker.toList <+: (Text.trim line).toList := by
      rw [Text.toList_trim]
      exact ⟨rest, (Text.after?_eq_some_iff.1 hrest).symm⟩
    constructor
    · intro h
      split at h
      · obtain ⟨flaw, -, hflaw⟩ := Except.mapError_eq_error_iff.1 h
        cases hflaw
      · cases h
    · rintro ⟨rfl, h, -⟩
      exact absurd hprefix h

theorem readHeader_eq_error {line : String} {fault : Fault} (h : readHeader line = .error fault) :
    (∃ text, fault = .incompatible text) ∨ ∃ flaw, fault = .format flaw := by
  unfold readHeader at h
  dsimp only at h
  split at h
  · split at h
    · cases h
      exact .inl ⟨_, rfl⟩
    · cases h
      exact .inr ⟨_, rfl⟩
  · split at h
    · obtain ⟨flaw, -, rfl⟩ := Except.mapError_eq_error_iff.1 h
      exact .inr ⟨flaw, rfl⟩
    · cases h
      exact .inr ⟨_, rfl⟩

/-! ### The rows and markers -/

section Rows

variable {α : Type} {part : Part} {blank : α} {decode : String → Except RowFault α} {Reads : String → α → Prop}
  {lines : List String} {number count k : Nat}

theorem readRow_eq_ok_iff (hreads : ∀ s v, decode s = .ok v ↔ Reads s v) {line : String} {v : α} :
    readRow part blank decode number line = .ok v ↔ IsRow blank Reads line v := by
  have hblank : (Text.trim line).toList.isEmpty = true ↔ Text.trim line = "" := by
    rw [List.isEmpty_iff, String.toList_eq_nil_iff]
  unfold readRow commentStart IsRow
  dsimp only
  rw [← Text.toList_trim, String.ofList_toList]
  by_cases hempty : Text.trim line = ""
  · rw [if_pos (hblank.2 hempty), if_pos hempty, Except.ok.injEq, eq_comm]
  · rw [if_neg (mt hblank.1 hempty), if_neg hempty]
    by_cases hcomment : ['/', '*'] <:+: (Text.trim line).toList
    · rw [if_pos (Text.contains_eq_true_iff.2 hcomment)]
      exact ⟨nofun, fun h => absurd hcomment h.1⟩
    · rw [if_neg (mt Text.contains_eq_true_iff.1 hcomment), Except.mapError_eq_ok_iff, hreads]
      exact (and_iff_right hcomment).symm

omit blank decode in
private theorem forall₂_iff_atLine? {R : String → α → Prop} {rows : List α} :
    List.Forall₂ R lines rows ↔ lines.length = rows.length ∧
      ∀ l v, atLine? rows l = some v → ∃ line, atLine? lines l = some line ∧ R line v := by
  rw [List.forall₂_iff_get]
  refine and_congr_right fun hlength => ?_
  constructor
  · intro h l v hv
    obtain ⟨hl, -⟩ := isSome_atLine?.1 (Option.isSome_of_eq_some hv)
    rw [atLine?_of_pos _ hl] at hv ⊢
    obtain ⟨hlt, rfl⟩ := List.getElem?_eq_some_iff.1 hv
    exact ⟨lines[l - 1], List.getElem?_eq_getElem (by omega), h (l - 1) (by omega) hlt⟩
  · intro h i hline hrow
    have hv : atLine? rows (i + 1) = some rows[i] := by
      rw [atLine?_of_pos _ (by omega)]
      exact List.getElem?_eq_getElem hrow
    obtain ⟨line, hl, hR⟩ := h (i + 1) rows[i] hv
    rw [atLine?_of_pos _ (by omega), Nat.add_sub_cancel, List.getElem?_eq_getElem hline] at hl
    cases hl
    exact hR

private theorem mapM_readRow_eq_ok_iff (hreads : ∀ s v, decode s = .ok v ↔ Reads s v) {rows : List α} :
    (lines.zipIdx number).mapM (fun (line, k) => readRow part blank decode k line) = .ok rows ↔
      List.Forall₂ (IsRow blank Reads) lines rows := by
  rw [Except.mapM_eq_ok_iff]
  simp only [readRow_eq_ok_iff hreads]
  rw [← List.forall₂_map_left_iff, List.zipIdx_map_fst]

/-- The rows that are read are those of as many lines; fewer lines are not enough. -/
theorem readRows_eq_ok_iff_forall₂ (hreads : ∀ s v, decode s = .ok v ↔ Reads s v) {rows : List α} :
    readRows part blank decode number count lines = .ok rows ↔
      List.Forall₂ (IsRow blank Reads) (lines.take count) rows ∧ count ≤ rows.length := by
  unfold readRows
  rw [Except.bind_eq_ok_iff]
  constructor
  · rintro ⟨found, hfound, h⟩
    split at h
    · cases h
    · cases h
      exact ⟨(mapM_readRow_eq_ok_iff hreads).1 hfound, by omega⟩
  · rintro ⟨hrows, hcount⟩
    refine ⟨rows, (mapM_readRow_eq_ok_iff hreads).2 hrows, ?_⟩
    rw [if_neg (by omega)]
    rfl

/-- Rows are read from the lines in their places, and none is left out. -/
theorem readRows_eq_ok_iff (hreads : ∀ s v, decode s = .ok v ↔ Reads s v) {rows : List α} :
    readRows part blank decode number count (lines.drop k) = .ok rows ↔
      rows.length = count ∧
        ∀ l v, atLine? rows l = some v → ∃ line, atLine? lines (k + l) = some line ∧ IsRow blank Reads line v := by
  rw [readRows_eq_ok_iff_forall₂ hreads, forall₂_iff_atLine?, List.length_take]
  constructor
  · rintro ⟨⟨hlength, hrows⟩, hcount⟩
    refine ⟨by omega, fun l v hv => ?_⟩
    obtain ⟨line, hline, hrow⟩ := hrows l v hv
    obtain ⟨hl, hle⟩ := isSome_atLine?.1 (Option.isSome_of_eq_some hv)
    rw [atLine?_take _ (by omega), atLine?_drop _ _ hl] at hline
    exact ⟨line, hline, hrow⟩
  · rintro ⟨rfl, hrows⟩
    have hplace : ∀ l v, atLine? rows l = some v →
        ∃ line, atLine? (lines.drop k) l = some line ∧ IsRow blank Reads line v := by
      intro l v hv
      rw [atLine?_drop _ _ (isSome_atLine?.1 (Option.isSome_of_eq_some hv)).1]
      exact hrows l v hv
    -- The line of the last row is there, and with it those before it.
    have hroom : rows.length ≤ (lines.drop k).length := by
      by_cases hempty : rows.length = 0
      · omega
      · have hlast : (atLine? rows rows.length).isSome = true :=
          isSome_atLine?.2 ⟨Nat.pos_of_ne_zero hempty, Nat.le_refl _⟩
        obtain ⟨v, hv⟩ := Option.isSome_iff_exists.1 hlast
        obtain ⟨line, hline, -⟩ := hplace _ v hv
        exact (isSome_atLine?.1 (Option.isSome_of_eq_some hline)).2
    refine ⟨⟨Nat.min_eq_left hroom, fun l v hv => ?_⟩, Nat.le_refl _⟩
    rw [atLine?_take _ (isSome_atLine?.1 (Option.isSome_of_eq_some hv)).2]
    exact hplace l v hv

theorem exists_readRows_iff (hreads : ∀ s v, decode s = .ok v ↔ Reads s v) :
    (∃ rows, readRows part blank decode number count (lines.drop k) = .ok rows) ↔
      ∀ l, 1 ≤ l → l ≤ count → ∃ line v, atLine? lines (k + l) = some line ∧ IsRow blank Reads line v := by
  simp only [readRows_eq_ok_iff hreads]
  constructor
  · rintro ⟨rows, rfl, hrows⟩ l hl hle
    obtain ⟨v, hv⟩ := Option.isSome_iff_exists.1 (isSome_atLine?.2 ⟨hl, hle⟩)
    obtain ⟨line, hline, hrow⟩ := hrows l v hv
    exact ⟨line, v, hline, hrow⟩
  · intro h
    choose line v hline hrow using h
    -- Places count from one, the items of the list from zero.
    refine ⟨List.ofFn fun i : Fin count => v (i + 1) (by omega) (by omega), List.length_ofFn, fun l w hw => ?_⟩
    obtain ⟨hl, hle⟩ := isSome_atLine?.1 (Option.isSome_of_eq_some hw)
    rw [List.length_ofFn] at hle
    rw [atLine?_of_pos _ hl, List.getElem?_ofFn, dif_pos (by omega), Option.some.injEq] at hw
    simp only [Nat.sub_add_cancel hl] at hw
    exact ⟨line l hl hle, hline l hl hle, hw ▸ hrow l hl hle⟩

theorem checkMarker_eq_ok_iff :
    checkMarker part number (lines.drop k) = .ok () ↔ (atLine? lines (k + 1)).map Text.trim = some part.marker := by
  rw [atLine?_of_pos _ (by omega), Nat.add_sub_cancel, ← List.head?_drop]
  unfold checkMarker
  cases (lines.drop k).head? with
  | none => exact ⟨nofun, nofun⟩
  | some line =>
    rw [Option.map_some, Option.some.injEq]
    dsimp only
    split
    · exact iff_of_true rfl ‹_›
    · exact iff_of_false nofun ‹_›

end Rows

theorem charMap_read_iff (s : String) (m : CharMap) :
    (CharMap.read s).mapError RowFault.charMap = .ok m ↔ CharMap.read s = .ok m := Except.mapError_eq_ok_iff

theorem fileList_read_iff (s : String) (files : List String) :
    (Json.readStrings s).mapError RowFault.fileList = .ok files ↔
      Json.Value.read s = .ok (.array (files.map .string)) :=
  Except.mapError_eq_ok_iff.trans Json.readStrings_eq_ok_iff

/-! ### The whole text -/

variable {script : String} {lines : List String}

/-- What the reader does with enough lines. -/
theorem read_of_least (script : String) (h : 4 ≤ lines.length) :
    ∃ header, atLine? lines 1 = some header ∧ read script lines =
      match readHeader header with
      | .error fault => .error fault
      | .ok count =>
        if (lines.length - 3) / 2 < count then .error (.format (.noRoom count ((lines.length - 3) / 2)))
        else (readBody script count (lines.drop 1)).mapError .format := by
  cases lines with
  | nil => cases h
  | cons header body =>
    refine ⟨header, rfl, ?_⟩
    have hleast : ¬ (header :: body).length < leastLines := Nat.not_lt.2 h
    unfold read
    dsimp only
    rw [if_neg hleast]
    rfl

theorem read_of_not_least (script : String) (h : ¬ 4 ≤ lines.length) :
    ∃ flaw, read script lines = .error (.format flaw) := by
  cases lines with
  | nil => exact ⟨_, rfl⟩
  | cons header body =>
    refine ⟨.tooShort (header :: body).length, ?_⟩
    have hleast : (header :: body).length < leastLines := Nat.not_le.1 h
    unfold read
    dsimp only
    rw [if_pos hleast]

theorem readBody_eq_ok_iff {count : Nat} {m : LineMap} :
    readBody script count (lines.drop 1) = .ok m ↔
      ∃ charMaps fileLists,
        readRows .charMaps .empty (fun s => (CharMap.read s).mapError .charMap) 2 count (lines.drop 1) = .ok charMaps ∧
        (atLine? lines (count + 2)).map Text.trim = some Part.fileLists.marker ∧
        readRows .fileLists [] (fun s => (Json.readStrings s).mapError .fileList) (count + 3) count
          (lines.drop (2 + count)) = .ok fileLists ∧
        (atLine? lines (2 * count + 3)).map Text.trim = some Part.definitions.marker ∧
        m = ⟨script, charMaps, fileLists, (lines.drop (2 * count + 3)).map Text.trim⟩ := by
  have hfirst : count + 2 = 1 + count + 1 := by omega
  have hsecond : 2 * count + 3 = 1 + (2 * count + 1) + 1 := by omega
  have hrows : 2 + count = 1 + (count + 1) := by omega
  have hrest : 2 * count + 3 = 1 + (2 * count + 2) := by omega
  unfold readBody
  simp only [List.drop_drop, Except.bind_eq_ok_iff]
  constructor
  · rintro ⟨charMaps, hcharMaps, ⟨⟩, hmarker, fileLists, hfileLists, ⟨⟩, hdefinitions, h⟩
    cases h
    refine ⟨charMaps, fileLists, hcharMaps, ?_, ?_, ?_, ?_⟩
    · rw [hfirst]
      exact checkMarker_eq_ok_iff.1 hmarker
    · rw [hrows]
      exact hfileLists
    · rw [hsecond]
      exact checkMarker_eq_ok_iff.1 hdefinitions
    · rw [hrest]
  · rintro ⟨charMaps, fileLists, hcharMaps, hmarker, hfileLists, hdefinitions, rfl⟩
    rw [hfirst] at hmarker
    rw [hsecond] at hdefinitions
    rw [hrows] at hfileLists
    rw [hrest]
    exact ⟨charMaps, hcharMaps, (), checkMarker_eq_ok_iff.2 hmarker, fileLists, hfileLists, (),
      checkMarker_eq_ok_iff.2 hdefinitions, rfl⟩

theorem read_eq_ok_iff {m : LineMap} :
    read script lines = .ok m ↔ 4 ≤ lines.length ∧ ∃ header count, atLine? lines 1 = some header ∧
      Declares header count ∧ 3 + 2 * count ≤ lines.length ∧ readBody script count (lines.drop 1) = .ok m := by
  by_cases hleast : 4 ≤ lines.length
  · obtain ⟨header, hheader, hread⟩ := read_of_least script hleast
    rw [hread]
    constructor
    · intro h
      split at h
      · cases h
      · rename_i count hcount
        split at h
        · cases h
        · refine ⟨hleast, header, count, hheader, readHeader_eq_ok_iff.1 hcount, by omega, ?_⟩
          exact Except.mapError_eq_ok_iff.1 h
    · rintro ⟨-, first, count, hfirst, hdeclares, hroom, hbody⟩
      obtain rfl : header = first := Option.some.inj (hheader.symm.trans hfirst)
      rw [readHeader_eq_ok_iff.2 hdeclares]
      dsimp only
      rw [if_neg (by omega)]
      exact Except.mapError_eq_ok_iff.2 hbody
  · obtain ⟨flaw, hflaw⟩ := read_of_not_least script hleast
    rw [hflaw]
    exact ⟨nofun, fun h => absurd h.1 hleast⟩

theorem isTextOf_of_read {m : LineMap} (h : read script lines = .ok m) : m.script = script ∧ IsTextOf lines m := by
  obtain ⟨hleast, header, count, hheader, hdeclares, hroom, hbody⟩ := read_eq_ok_iff.1 h
  obtain ⟨charMaps, fileLists, hcharMaps, hmarker, hfileLists, hdefinitions, rfl⟩ := readBody_eq_ok_iff.1 hbody
  obtain ⟨rfl, hcharMap⟩ := (readRows_eq_ok_iff charMap_read_iff).1 hcharMaps
  obtain ⟨hlength, hfiles⟩ := (readRows_eq_ok_iff fileList_read_iff).1 hfileLists
  refine ⟨rfl, ⟨⟨hleast, ⟨header, hheader, hdeclares⟩, hroom, ?_, hmarker, ?_, hdefinitions⟩,
    fun l => isSome_atLine?, fun l => ?_, hcharMap, hfiles, fun id => ?_⟩⟩
  · exact (exists_readRows_iff charMap_read_iff).1 ⟨charMaps, hcharMaps⟩
  · exact (exists_readRows_iff fileList_read_iff).1 ⟨fileLists, hfileLists⟩
  · rw [files?, isSome_atLine?, hlength]
    rfl
  · rw [List.getElem?_map, List.getElem?_drop, atLine?_of_pos _ (by omega), lineCount,
      show 2 * charMaps.length + 4 + id - 1 = 2 * charMaps.length + 3 + id by omega]

theorem exists_read_of_isText {count : Nat} (h : IsText lines count) : ∃ m, read script lines = .ok m := by
  obtain ⟨header, hheader, hdeclares⟩ := h.header
  obtain ⟨charMaps, hcharMaps⟩ := (exists_readRows_iff charMap_read_iff).2 h.charMapRow
  obtain ⟨fileLists, hfileLists⟩ := (exists_readRows_iff fileList_read_iff).2 h.fileRow
  refine ⟨⟨script, charMaps, fileLists, (lines.drop (2 * count + 3)).map Text.trim⟩, ?_⟩
  refine read_eq_ok_iff.2 ⟨h.least, header, count, hheader, hdeclares, h.room, ?_⟩
  exact readBody_eq_ok_iff.2 ⟨charMaps, fileLists, hcharMaps, h.fileMarker, hfileLists, h.definitionMarker, rfl⟩

/-- The faults of the reader are of two kinds, and a map of another version is recognised on its first line. -/
theorem read_eq_error_cases {fault : Fault} (h : read script lines = .error fault) :
    (4 ≤ lines.length ∧ ∃ header, atLine? lines 1 = some header ∧ readHeader header = .error fault) ∨
      ∃ flaw, fault = .format flaw := by
  by_cases hleast : 4 ≤ lines.length
  · obtain ⟨header, hheader, hread⟩ := read_of_least script hleast
    rw [hread] at h
    split at h
    · rename_i cause hcause
      cases h
      exact .inl ⟨hleast, header, hheader, hcause⟩
    · split at h
      · cases h
        exact .inr ⟨_, rfl⟩
      · obtain ⟨flaw, -, rfl⟩ := Except.mapError_eq_error_iff.1 h
        exact .inr ⟨flaw, rfl⟩
  · obtain ⟨flaw, hflaw⟩ := read_of_not_least script hleast
    rw [hflaw] at h
    cases h
    exact .inr ⟨flaw, rfl⟩

theorem read_eq_incompatible_iff {text : String} :
    read script lines = .error (.incompatible text) ↔ 4 ≤ lines.length ∧ ∃ header, atLine? lines 1 = some header ∧
      text = Text.trim header ∧ ¬ Part.charMaps.marker.toList <+: text.toList ∧
      "source map".toList <:+: text.toList := by
  simp only [← readHeader_eq_incompatible_iff]
  constructor
  · intro h
    obtain h | ⟨flaw, hflaw⟩ := read_eq_error_cases h
    · exact h
    · cases hflaw
  · rintro ⟨hleast, header, hheader, h⟩
    obtain ⟨first, hfirst, hread⟩ := read_of_least script hleast
    obtain rfl : header = first := Option.some.inj (hheader.symm.trans hfirst)
    rw [hread, h]

/-- The reader takes the texts of the grammar and no others.  Its fault is that of a map of another version where the
first of enough lines says so, and a fault of the format otherwise.  The line map that was read is the one that the text
describes, line for line. -/
theorem read_iff_isText (script : String) (lines : List String) :
    ((∃ m, read script lines = .ok m) ↔ ∃ count, IsText lines count) ∧
    (∀ text, read script lines = .error (.incompatible text) ↔
      4 ≤ lines.length ∧ ∃ header, atLine? lines 1 = some header ∧ text = Text.trim header ∧
        ¬ Part.charMaps.marker.toList <+: text.toList ∧ "source map".toList <:+: text.toList) ∧
    (∀ fault, read script lines = .error fault → (∃ text, fault = .incompatible text) ∨ ∃ flaw, fault = .format flaw) ∧
    (∀ m, read script lines = .ok m → m.script = script ∧ IsTextOf lines m) := by
  refine ⟨⟨?_, ?_⟩, fun text => read_eq_incompatible_iff, fun fault h => ?_, fun m h => isTextOf_of_read h⟩
  · rintro ⟨m, h⟩
    exact ⟨m.lineCount, (isTextOf_of_read h).2.isText⟩
  · rintro ⟨count, h⟩
    exact exists_read_of_isText h
  · obtain ⟨-, header, -, hheader⟩ | hflaw := read_eq_error_cases h
    · exact readHeader_eq_error hheader
    · exact .inr hflaw

/-- A text with rows of each kind. -/
def textSample : List String :=
  ["/** Begin line maps. **/ \x7b\"count\": 2\x7d", "[,0,-1]", "", " /** Begin file information. **/", "", "[\"a.js\"]",
    "/** Begin mapping definitions. **/", "[\"a.js\", 3, 1] "]

/-- The sample text, and one that a newer version wrote. -/
theorem read_iff_isText_sample :
    read "out.js" textSample =
      .ok ⟨"out.js", [⟨[.same, .mapping 0, .unmapped]⟩, .empty], [[], ["a.js"]], ["[\"a.js\", 3, 1]"]⟩ ∧
    IsTextOf textSample
      ⟨"out.js", [⟨[.same, .mapping 0, .unmapped]⟩, .empty], [[], ["a.js"]], ["[\"a.js\", 3, 1]"]⟩ ∧
    read "out.js" ["source map version 3", "", "", ""] = .error (.incompatible "source map version 3") ∧
    ((∃ text, Fault.incompatible "source map version 3" = .incompatible text) ∨
      ∃ flaw, Fault.incompatible "source map version 3" = .format flaw) := by
  obtain ⟨-, -, -, describes⟩ := read_iff_isText "out.js" textSample
  obtain ⟨-, -, kinds, -⟩ := read_iff_isText "out.js" ["source map version 3", "", "", ""]
  exact ⟨rfl, (describes _ rfl).2, rfl, kinds _ rfl⟩

end LineAtlas.LineMap
