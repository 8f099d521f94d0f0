import LineAtlas.Proofs.Files.Tree
import LineAtlas.Proofs.LineMap.Grammar
import LineAtlas.Proofs.Text.LineEnds
import LineAtlas.Provider

/-!
# Blanks around lines

Each part of the reader looks at its lines without the blanks around them, so that it finds the same in the lines as in
the trimmed ones: the header (`readHeader_trim`), the rows (`readRows_map_trim`), the markers (`checkMarker_map_trim`)
and the definitions.  A fault quotes lines, but only as they were looked at.

The key facts: lines that are alike when trimmed are read alike (`read_congr`), and so is a text whose lines end with
line feeds or with carriage returns before them (`layout_does_not_count`).
-/

namespace LineAtlas.LineMap

open Text (trim withReturns)

/-! ### The parts of the reader -/

theorem readHeader_trim (line : String) : readHeader (trim line) = readHeader line := by
  unfold readHeader
  rw [Text.toList_trim, Text.trimChars_trimChars]

section Rows

variable {α : Type} {part : Part} {blank : α} {decode : String → Except RowFault α} {number count : Nat}

theorem readRow_trim (line : String) :
    readRow part blank decode number (trim line) = readRow part blank decode number line := by
  unfold readRow
  rw [Text.toList_trim, Text.trimChars_trimChars]

theorem readRows_map_trim (lines : List String) :
    readRows part blank decode number count (lines.map trim) = readRows part blank decode number count lines := by
  have hrow : (fun (x : String × Nat) => readRow part blank decode x.2 x.1) ∘ Prod.map trim id =
      fun x => readRow part blank decode x.2 x.1 := by
    funext ⟨line, k⟩
    simp only [Function.comp_apply, Prod.map_apply, readRow_trim, id_eq]
  unfold readRows
  rw [← List.map_take, List.zipIdx_map, List.mapM_map, hrow]

theorem checkMarker_map_trim (lines : List String) :
    checkMarker part number (lines.map trim) = checkMarker part number lines := by
  cases lines with
  | nil => rfl
  | cons line lines =>
    unfold checkMarker
    simp only [List.map_cons, List.head?_cons, Text.trim_trim]

end Rows

theorem readBody_map_trim (script : String) (count : Nat) (body : List String) :
    readBody script count (body.map trim) = readBody script count body := by
  have htrim : trim ∘ trim = trim := funext Text.trim_trim
  unfold readBody
  simp only [← List.map_drop, readRows_map_trim, checkMarker_map_trim, List.map_map, htrim]

/-! ### Whole texts -/

theorem read_map_trim (script : String) (lines : List String) : read script (lines.map trim) = read script lines := by
  cases lines with
  | nil => rfl
  | cons header body =>
    unfold read
    simp only [List.map_cons, List.length_cons, List.length_map, readHeader_trim, readBody_map_trim]

theorem read_congr {lines other : List String} (script : String) (h : lines.map trim = other.map trim) :
    read script lines = read script other := by
  rw [← read_map_trim, h, read_map_trim]

/-- A map is loaded alike from two providers with lines that are alike when trimmed, and the same is reported. -/
theorem loadMap_congr {provider other : Provider} {address : String}
    (h : (provider.lines address).map (List.map trim) = (other.lines address).map (List.map trim)) (script : String) :
    provider.loadMap address script = other.loadMap address script := by
  unfold Provider.loadMap
  cases hlines : provider.lines address with
  | error cause =>
    cases hother : other.lines address with
    | error cause' =>
      rw [hlines, hother] at h
      obtain rfl : cause = cause' := Except.error.inj h
      rfl
    | ok ls =>
      rw [hlines, hother] at h
      cases h
  | ok lines =>
    cases hother : other.lines address with
    | error cause =>
      rw [hlines, hother] at h
      cases h
    | ok lines' =>
      rw [hlines, hother] at h
      dsimp only
      rw [read_congr script (Except.ok.inj h)]

/-- Blanks around lines do not count: lines are read like the trimmed ones, to the same map or the same fault, and so
are any two lists of lines that are alike when trimmed.  A text on a shelf or in a file is loaded alike, with the same
report, when carriage returns are put in front of its line feeds. -/
theorem layout_does_not_count :
    (∀ script lines, read script (lines.map trim) = read script lines) ∧
    (∀ script lines other, lines.map trim = other.map trim → read script lines = read script other) ∧
    (∀ (shelf : Shelf) (address content script : String),
      (Provider.shelf (shelf.insert address (withReturns content))).loadMap address script =
        (Provider.shelf (shelf.insert address content)).loadMap address script) ∧
    (∀ (t u : Files.Tree) (base : Option String) (address content script : String),
      t.readText (Provider.pathOf base address) = .ok content →
      u.readText (Provider.pathOf base address) = .ok (withReturns content) →
      (Provider.files u base).loadMap address script = (Provider.files t base).loadMap address script) := by
  have hlines := Text.map_trim_lines_withReturns
  refine ⟨read_map_trim, fun script lines other => read_congr script, fun shelf address content script => ?_,
    fun t u base address content script ht hu => ?_⟩
  · apply loadMap_congr
    have hstored (text : String) :
        (Provider.shelf (shelf.insert address text)).lines address = .ok (Text.lines text) := by
      simp [Provider.lines, Shelf.lines?, Shelf.insert]
    rw [hstored, hstored]
    exact congrArg Except.ok (hlines content)
  · apply loadMap_congr
    have hfound {tree : Files.Tree} {text : String} (h : tree.readText (Provider.pathOf base address) = .ok text) :
        (Provider.files tree base).lines address = .ok (Text.lines text) := by
      simp only [Provider.lines, h]
    rw [hfound ht, hfound hu]
    exact congrArg Except.ok (hlines content)

/-- The lines of `textSample` among blanks of several kinds. -/
def spacedSample : List String :=
  ["\t/** Begin line maps. **/ \x7b\"count\": 2\x7d\r", "[,0,-1] ", "\u2003", "/** Begin file information. **/\r",
    " \r", "\u00a0[\"a.js\"]", "/** Begin mapping definitions. **/ ", "\u3000[\"a.js\", 3, 1]\r"]

/-- A text with line feeds whose file list is no list. -/
def faultySample : String :=
  "/** Begin line maps. **/\x7b\"count\":1\x7d\n[0]\n/** Begin file information. **/\n\x7b\x7d\n" ++
    "/** Begin mapping definitions. **/\n"

/-- A tree with a text in a file. -/
def treeWith (text : String) : Files.Tree := (Files.Tree.below ["work"]).put ["work", "out.map"] (.file text.toUTF8)

/-- The lines among blanks are the map that the trimmed ones are, and the file list is refused with the same words. -/
theorem layout_does_not_count_sample :
    spacedSample.map trim = textSample.map trim ∧
    read "out.js" spacedSample =
      .ok ⟨"out.js", [⟨[.same, .mapping 0, .unmapped]⟩, .empty], [[], ["a.js"]], ["[\"a.js\", 3, 1]"]⟩ ∧
    (treeWith faultySample).readText "out.map" = .ok faultySample ∧
    (treeWith (withReturns faultySample)).readText "out.map" = .ok (withReturns faultySample) ∧
    (Provider.files (treeWith (withReturns faultySample)) none).loadMap "out.map" "out.js" =
      (Provider.files (treeWith faultySample) none).loadMap "out.map" "out.js" := by
  obtain ⟨-, alike, -, loaded⟩ := layout_does_not_count
  have htrimmed : spacedSample.map trim = textSample.map trim := by decide +kernel
  have hfound (text : String) : (treeWith text).readText "out.map" = .ok text := Files.Tree.readText_of_read (by rfl)
  exact ⟨htrimmed, alike "out.js" spacedSample textSample htrimmed, hfound _, hfound _,
    loaded _ _ none "out.map" faultySample "out.js" (hfound _) (hfound _)⟩

end LineAtlas.LineMap
