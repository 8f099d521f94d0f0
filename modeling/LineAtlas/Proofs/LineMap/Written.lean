import LineAtlas.Proofs.CharMap.Written
import LineAtlas.Proofs.Json.Spelled
import LineAtlas.Proofs.LineMap.Grammar

/-!
# Written line maps

`LineMap.write` writes the text of a line map.  The reader takes a text part by part (`read_parts`), and each part that
was written is read as what it was written for: the header (`declares_headerLine`), the character maps
(`isCharMapRow_literal_iff`) and the lists of source files (`isFileRow_fileRow_iff`).  So a line map that is written is
read back (`read_write`).
-/

namespace LineAtlas.LineMap

/-! ### The writer -/

/-- The object after the first marker. -/
def payload (count : Nat) : String := "\x7b\"count\": " ++ Numeral.ofNat count ++ "\x7d"

/-- The first line of a file that describes a number of generated lines. -/
def headerLine (count : Nat) : String := Part.charMaps.marker ++ payload count

/-- The row of a list of source files. -/
def fileRow (files : List String) : String := (Json.Value.array (files.map .string)).compact

/-- The lines of a file for some generated lines, each with its character map and its source files, and some
definitions. -/
def write (rows : List (CharMap × List String)) (definitions : List String) : List String :=
  headerLine rows.length :: rows.map (·.1.literal) ++
    Part.fileLists.marker :: rows.map (fun row => fileRow row.2) ++
      Part.definitions.marker :: definitions

/-! ### The parts of a text -/

section Parts

variable {header first second : String} {mapRows fileRows definitions : List String}

private theorem atLine?_of_drop {lines rest : List String} {line : String} {k : Nat} (h : lines.drop k = line :: rest) :
    atLine? lines (k + 1) = some line := by
  rw [atLine?_of_pos _ (by omega), Nat.add_sub_cancel, ← List.head?_drop, h, List.head?_cons]

/-- A text is read part by part. -/
theorem read_parts (script : String) {charMaps : List CharMap} {fileLists : List (List String)}
    (hheader : Declares header mapRows.length) (hmaps : List.Forall₂ IsCharMapRow mapRows charMaps)
    (hfirst : Text.trim first = Part.fileLists.marker) (hfiles : List.Forall₂ IsFileRow fileRows fileLists)
    (hsecond : Text.trim second = Part.definitions.marker) (hrows : fileRows.length = mapRows.length)
    (hsome : mapRows ≠ [] ∨ definitions ≠ []) :
    read script (header :: mapRows ++ first :: fileRows ++ second :: definitions) =
      .ok ⟨script, charMaps, fileLists, definitions.map Text.trim⟩ := by
  have hleast : 1 ≤ mapRows.length + definitions.length := by
    rw [← List.length_append, Nat.one_le_iff_ne_zero, Ne, List.length_eq_zero_iff, List.append_eq_nil_iff, not_and_or]
    exact hsome
  generalize hlines : header :: mapRows ++ first :: fileRows ++ second :: definitions = lines
  generalize hcount : mapRows.length = count at hheader hrows hleast
  have hlength : lines.length = 2 * count + 3 + definitions.length := by
    rw [← hlines]
    simp only [List.length_append, List.length_cons]
    omega
  have hheaderLine : atLine? lines 1 = some header := by rw [← hlines]; rfl
  -- What is left after each part of the text.
  have hmapRows : lines.drop 1 = mapRows ++ (first :: fileRows ++ second :: definitions) := by
    rw [← hlines, List.append_assoc]
    rfl
  have hfirstLine : lines.drop (count + 1) = first :: fileRows ++ second :: definitions := by
    rw [Nat.add_comm, ← List.drop_drop, hmapRows]
    exact List.drop_left' hcount
  have hfileRows : lines.drop (2 + count) = fileRows ++ second :: definitions := by
    rw [show 2 + count = count + 1 + 1 by omega, ← List.tail_drop, hfirstLine]
    rfl
  have hsecondLine : lines.drop (2 * count + 2) = second :: definitions := by
    rw [show 2 * count + 2 = 2 + count + count by omega, ← List.drop_drop, hfileRows]
    exact List.drop_left' hrows
  have hdefinitions : lines.drop (2 * count + 3) = definitions := by
    rw [← List.tail_drop, hsecondLine, List.tail_cons]
  refine read_eq_ok_iff.2 ⟨by omega, header, count, hheaderLine, hheader, by omega, ?_⟩
  refine readBody_eq_ok_iff.2 ⟨charMaps, fileLists, ?_, ?_, ?_, ?_, by rw [hdefinitions]⟩
  · have hsame := hmaps.length_eq
    rw [readRows_eq_ok_iff_forall₂ charMap_read_iff, hmapRows, List.take_left' hcount]
    exact ⟨hmaps, by omega⟩
  · rw [atLine?_of_drop hfirstLine, Option.map_some, hfirst]
  · have hsame := hfiles.length_eq
    rw [readRows_eq_ok_iff_forall₂ fileList_read_iff, hfileRows, List.take_left' hrows]
    exact ⟨hfiles, by omega⟩
  · rw [atLine?_of_drop hsecondLine, Option.map_some, hsecond]

end Parts

/-! ### What was written -/

theorem toList_payload (count : Nat) :
    (payload count).toList =
      '\x7b' :: ((Json.quote "count").toList ++ ':' :: ' ' :: (Numeral.chars count ++ ['\x7d'])) := by
  simp only [payload, String.toList_append, Numeral.ofNat, String.toList_ofList, Json.toList_quote]
  rfl

theorem spells_payload (count : Nat) :
    Json.Spells (.object [("count", .integer count)]) (payload count).toList := by
  have hblank : Json.Gap [' '] := by simp [Json.Gap, Json.isGap]
  have hobject : Json.Spells (.object [("count", .integer count)]) _ :=
    .object (.cons (Json.spellsString_quote "count") (.refl _) (.integer count) ⟨[' '], [], hblank, Json.gap_nil, rfl⟩
      .nil) (.refl _) Json.gap_nil
  rw [toList_payload]
  simpa [Numeral.toList_ofInt_natCast] using hobject

theorem fits_payload {count : Nat} (h : count ≤ Numeral.wordLimit) :
    (Json.Value.object [("count", .integer count)]).Fits Json.nestingLimit := by
  refine Json.fits_object.2 ⟨126, rfl, List.pairwise_singleton _ _, fun p hp => ?_⟩
  rw [List.mem_singleton.1 hp]
  exact Json.fits_integer.2 ⟨by omega, by omega⟩

theorem trim_marker (part : Part) : Text.trim part.marker = part.marker := by
  cases part with
  | charMaps => rfl
  | fileLists => rfl
  | definitions => rfl

theorem declares_headerLine {count : Nat} (h : count ≤ Numeral.wordLimit) : Declares (headerLine count) count := by
  obtain ⟨cs, hcs⟩ : ∃ cs, (payload count).toList = '\x7b' :: (cs ++ ['\x7d']) := by
    refine ⟨(Json.quote "count").toList ++ ':' :: ' ' :: Numeral.chars count, ?_⟩
    rw [toList_payload, List.append_assoc]
    rfl
  have hpayload : Text.trim (payload count) = payload count := by
    refine Text.trim_of_trimChars ?_
    rw [hcs]
    exact Text.trimChars_enclosed rfl rfl cs
  have hline : Text.trim (headerLine count) = headerLine count := by
    have hchars : (headerLine count).toList =
        '/' :: ((Part.charMaps.marker.toList.tail ++ '\x7b' :: cs) ++ ['\x7d']) := by
      rw [headerLine, String.toList_append, hcs, List.append_assoc]
      rfl
    refine Text.trim_of_trimChars ?_
    rw [hchars]
    exact Text.trimChars_enclosed rfl rfl _
  refine ⟨payload count, [("count", .integer count)], hline, ?_, ?_, rfl, h⟩
  · rw [hpayload, toList_payload]
    rfl
  · rw [hpayload]
    exact Json.read_spelled (spells_payload count) (.refl _) (fits_payload h)

theorem isCharMapRow_literal_iff {m : CharMap} :
    IsCharMapRow m.literal m ↔ (m.slots ≠ [] → CharMap.read m.literal = .ok m) := by
  have hcomment : ¬ ['/', '*'] <:+: m.literal.toList := by
    intro hinfix
    have hslash : '/' ∈ m.literal.toList := hinfix.subset List.mem_cons_self
    obtain h | h | h | h | h := CharMap.mem_literal hslash
    all_goals cases h
  unfold IsCharMapRow IsRow
  rw [CharMap.trim_literal]
  by_cases hslots : m.slots = []
  · rw [if_pos (CharMap.literal_eq_empty_iff.2 hslots)]
    exact iff_of_true (congrArg CharMap.mk hslots) fun h => absurd hslots h
  · rw [if_neg (mt CharMap.literal_eq_empty_iff.1 hslots), and_iff_right hcomment]
    exact ⟨fun h _ => h, fun h => h hslots⟩

theorem isFileRow_fileRow_iff {files : List String} :
    IsFileRow (fileRow files) files ↔ ¬ ['/', '*'] <:+: (fileRow files).toList := by
  have hchars : (fileRow files).toList = _ := Json.toList_compact_array _
  have htrim : Text.trim (fileRow files) = fileRow files := by
    refine Text.trim_of_trimChars ?_
    rw [hchars]
    exact Text.trimChars_enclosed rfl rfl _
  have hne : fileRow files ≠ "" := by
    rw [Ne, ← String.toList_eq_nil_iff, hchars]
    exact List.cons_ne_nil _ _
  unfold IsFileRow IsRow
  rw [htrim, if_neg hne]
  exact and_iff_left (Json.read_compact (Json.fits_strings files 126))

variable {rows : List (CharMap × List String)} {definitions : List String}

/-- A written line map is read back.  Its identifiers are below `2 ^ 63`, no row of source files holds the start of a
comment, the definitions have no blanks around them, and there is a generated line or a definition at all; the number of
generated lines fits 64 bits, as that of every list in memory does. -/
theorem read_write (script : String) (hids : ∀ row ∈ rows, ∀ id ∈ row.1.mappings, id < Numeral.signedRange)
    (hcomments : ∀ row ∈ rows, ¬ ['/', '*'] <:+: (fileRow row.2).toList)
    (htrimmed : ∀ definition ∈ definitions, Text.trim definition = definition)
    (hsome : rows ≠ [] ∨ definitions ≠ []) (hcount : rows.length ≤ Numeral.wordLimit) :
    read script (write rows definitions) = .ok ⟨script, rows.map Prod.fst, rows.map Prod.snd, definitions⟩ := by
  have hmaps : List.Forall₂ IsCharMapRow (rows.map (·.1.literal)) (rows.map Prod.fst) := by
    rw [List.forall₂_map_left_iff, List.forall₂_map_right_iff, List.forall₂_same]
    intro row hrow
    rw [isCharMapRow_literal_iff]
    exact fun hslots => CharMap.read_literal hslots (hids row hrow)
  have hfiles : List.Forall₂ IsFileRow (rows.map fun row => fileRow row.2) (rows.map Prod.snd) := by
    rw [List.forall₂_map_left_iff, List.forall₂_map_right_iff, List.forall₂_same]
    intro row hrow
    rw [isFileRow_fileRow_iff]
    exact hcomments row hrow
  have hmap : definitions.map Text.trim = definitions := by
    rw [List.map_congr_left htrimmed, List.map_id']
  have hheader : Declares (headerLine rows.length) (rows.map (·.1.literal)).length := by
    rw [List.length_map]
    exact declares_headerLine hcount
  have hread := read_parts script hheader hmaps (trim_marker _) hfiles (trim_marker _)
    (by rw [List.length_map, List.length_map]) (hsome.imp_left (mt List.map_eq_nil_iff.1))
  rw [hmap] at hread
  exact hread

/-- A line whose last slot says nothing new, one without slots, and one that says nothing new at all. -/
def rowsSample : List (CharMap × List String) :=
  [(⟨[.mapping 0, .same, .unmapped, .same]⟩, ["a \"b\".js", "tab\t/\x01.js"]), (.empty, []), (⟨[.same]⟩, [""])]

/-- The lines that are written for the sample, and the line map that is read from them. -/
theorem read_write_sample :
    write rowsSample ["[\"a.js\",3]", ""] =
      ["/** Begin line maps. **/\x7b\"count\": 3\x7d", "[0,,-1,,]", "", "[,]", "/** Begin file information. **/",
        "[\"a \\\"b\\\".js\",\"tab\\t/\\u0001.js\"]", "[]", "[\"\"]", "/** Begin mapping definitions. **/",
        "[\"a.js\",3]", ""] ∧
    read "out.js" (write rowsSample ["[\"a.js\",3]", ""]) =
      .ok ⟨"out.js", rowsSample.map Prod.fst, rowsSample.map Prod.snd, ["[\"a.js\",3]", ""]⟩ := by
  have hcomments : ∀ row ∈ rowsSample, Text.contains ['/', '*'] (fileRow row.2).toList = false := by decide
  refine ⟨by decide, read_write "out.js" (by decide) (fun row hrow hinfix => ?_) (by decide) (by decide) (by decide)⟩
  rw [← Text.contains_eq_true_iff, hcomments row hrow] at hinfix
  cases hinfix

end LineAtlas.LineMap
