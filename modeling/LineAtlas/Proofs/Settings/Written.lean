import LineAtlas.Proofs.Toml.Lines
import LineAtlas.Settings.Text

/-!
# Written settings are read back

The text of settings is read as statements (`reads_text`), which make a document (`ofStatements?_statements`), which
gives the settings (`ofDocument?_document`).  So `Settings.read` takes back whatever `Settings.text` writes
(`read_text`), for any texts in it and any number of blocks.
-/

namespace LineAtlas.Settings

open Toml (Fields Reads Section Statement Value)

/-! ### Statements -/

/-- The field for a value that may be missing. -/
def optionalField (name : String) (value : Option String) : Fields := (value.map fun s => (name, .text s)).toList

/-- The fields of a block. -/
def Block.fields (b : Block) : Fields :=
  ("url", .text b.script) :: (optionalField "source_map" b.lineMap ++ optionalField "root_path" b.root)

/-- The statements of a block. -/
def Block.statements (b : Block) : List Statement := .element ["context"] :: b.fields.assignments

/-- The fields that stand for the lack of blocks. -/
def noBlocks (blocks : List Block) : Fields := if blocks.isEmpty then [("context", .array [])] else []

/-- The statements of settings. -/
def statements (s : Settings) : List Statement :=
  (noBlocks s.blocks).assignments ++
    .table ["output"] :: ((optionalField "format" s.format).assignments ++ s.blocks.flatMap Block.statements)

variable {rest : List Char} {sts : List Statement}

theorem reads_optionalLine (h : Reads rest sts) {key : String} (hkey : Toml.IsBare key) (value : Option String) :
    Reads ((optionalLine key value).toList ++ rest) ((optionalField key value).assignments ++ sts) := by
  cases value with
  | none => exact h
  | some s => exact h.writeLine hkey s

theorem reads_block (h : Reads rest sts) (b : Block) :
    Reads (b.text.toList ++ rest) (b.statements ++ sts) := by
  have hroot := reads_optionalLine h (show Toml.IsBare "root_path" by decide) b.root
  have hmap := reads_optionalLine hroot (show Toml.IsBare "source_map" by decide) b.lineMap
  have hscript := hmap.writeLine (show Toml.IsBare "url" by decide) b.script
  have hblock := (hscript.element (show Toml.IsBare "context" by decide)).blank
  simp only [Block.text, String.toList_append, List.append_assoc]
  simp only [Block.statements, Block.fields, Fields.assignments, List.map_cons, List.map_append, List.cons_append,
    List.append_assoc]
  exact hblock

theorem reads_blocks (blocks : List Block) :
    Reads (String.join (blocks.map Block.text)).toList (blocks.flatMap Block.statements) := by
  induction blocks with
  | nil => exact .nil
  | cons b blocks ih =>
    rw [List.map_cons, String.join_cons, String.toList_append, List.flatMap_cons]
    exact reads_block ih b

theorem reads_text (s : Settings) : Reads s.text.toList s.statements := by
  have hformat := reads_optionalLine (reads_blocks s.blocks) (show Toml.IsBare "format" by decide) s.format
  have houtput := hformat.table (show Toml.IsBare "output" by decide)
  unfold text statements noBlocks
  dsimp only
  split
  · have hempty (rest : List Char) :
        Toml.readValue (['[', ']'] ++ '\n' :: rest) = some (.array [], '\n' :: rest) := rfl
    have harray := houtput.blank.named (show Toml.IsBare "context" by decide) (fun c hc => by cases hc; rfl) (hempty _)
    simp only [String.toList_append, List.append_assoc]
    exact harray
  · simp only [String.toList_append, List.append_assoc]
    exact houtput

/-! ### Documents -/

/-- The document of settings. -/
def document (s : Settings) : Fields :=
  noBlocks s.blocks ++ ("output", .table .header (optionalField "format" s.format)) ::
    (if s.blocks.isEmpty then [] else [("context", .tables (s.blocks.map Block.fields))])

/-- The section of a block. -/
def Block.section (b : Block) : Section := ⟨true, ["context"], b.fields.pairs⟩

theorem sectionsOf_blocks (blocks : List Block) :
    Toml.sectionsOf (blocks.flatMap Block.statements) = ([], blocks.map Block.section) := by
  induction blocks with
  | nil => rfl
  | cons b blocks ih =>
    rw [List.flatMap_cons, Block.statements, List.cons_append, Toml.sectionsOf, Toml.sectionsOf_append, ih,
      List.append_nil]
    rfl

theorem sectionsOf_statements (s : Settings) :
    Toml.sectionsOf s.statements = ((noBlocks s.blocks).pairs,
      ⟨false, ["output"], (optionalField "format" s.format).pairs⟩ :: s.blocks.map Block.section) := by
  rw [statements, Toml.sectionsOf_append, Toml.sectionsOf, Toml.sectionsOf_append, sectionsOf_blocks, List.append_nil,
    List.append_nil]

theorem nodup_fields (b : Block) : (b.fields.map Prod.fst).Nodup := by
  obtain ⟨script, lineMap, root⟩ := b
  cases lineMap <;> cases root <;> simp [Block.fields, optionalField]

theorem nodup_optionalField (name : String) (value : Option String) :
    ((optionalField name value).map Prod.fst).Nodup := by
  cases value <;> simp [optionalField]

/-- Each block after the first adds a table to the list. -/
theorem foldlM_section (output : Value) (done : List Fields) (blocks : List Block) :
    (blocks.map Block.section).foldlM (fun fields sec => sec.addAt sec.key fields)
        [("output", output), ("context", .tables done)] =
      some [("output", output), ("context", .tables (done ++ blocks.map Block.fields))] := by
  induction blocks generalizing done with
  | nil => rw [List.map_nil, List.map_nil, List.append_nil]; rfl
  | cons b blocks ih =>
    have hfilled : Fields.insertAll .header [] b.fields.pairs = some b.fields :=
      Toml.insertAll_of_nodup .header (nodup_fields b)
    have hplace : b.section.addAt b.section.key [("output", output), ("context", .tables done)] =
        some [("output", output), ("context", .tables (done ++ [b.fields]))] := by
      show (Fields.insertAll .header [] b.fields.pairs).map _ = _
      rw [hfilled]
      rfl
    rw [List.map_cons, List.foldlM_cons, hplace]
    show List.foldlM _ _ (blocks.map Block.section) = _
    rw [ih, List.append_assoc]
    rfl

theorem ofStatements?_statements (s : Settings) : Toml.ofStatements? s.statements = some s.document := by
  obtain ⟨format, blocks⟩ := s
  have hformat : Fields.insertAll .header [] (optionalField "format" format).pairs =
      some (optionalField "format" format) := Toml.insertAll_of_nodup .header (nodup_optionalField ..)
  unfold Toml.ofStatements?
  rw [sectionsOf_statements]
  cases blocks with
  | nil =>
    show (Fields.insertAll .header [] (optionalField "format" format).pairs).map _ >>= pure = _
    rw [hformat]
    rfl
  | cons b blocks =>
    have hfilled : Fields.insertAll .header [] b.fields.pairs = some b.fields :=
      Toml.insertAll_of_nodup .header (nodup_fields b)
    show (Fields.insertAll .header [] (optionalField "format" format).pairs).map _ >>= _ = _
    rw [hformat]
    show (Fields.insertAll .header [] b.fields.pairs).map _ >>= _ = _
    rw [hfilled]
    exact foldlM_section _ [b.fields] blocks

theorem blockOfFields?_fields (b : Block) : blockOfFields? b.fields = some b := by
  obtain ⟨script, lineMap, root⟩ := b
  cases lineMap <;> cases root <;> rfl

theorem ofDocument?_document (s : Settings) : ofDocument? s.document = some s := by
  obtain ⟨format, blocks⟩ := s
  have hformat : optionalText? ((optionalField "format" format).lookup "format") = some format := by
    cases format <;> rfl
  cases blocks with
  | nil =>
    show (optionalText? ((optionalField "format" format).lookup "format")).bind _ = _
    rw [hformat]
    rfl
  | cons b blocks =>
    have hblocks : ((b :: blocks).map Block.fields).mapM blockOfFields? = some (b :: blocks) := by
      rw [List.mapM_map, show blockOfFields? ∘ Block.fields = some from funext blockOfFields?_fields]
      exact List.mapM_pure.trans (congrArg some (List.map_id' _))
    show (optionalText? ((optionalField "format" format).lookup "format")).bind
      (fun format => (((b :: blocks).map Block.fields).mapM blockOfFields?).bind _) = _
    rw [hformat, hblocks]
    rfl

/-- Settings are read back from their text. -/
theorem read_text (s : Settings) : read s.text = some s := by
  have hmark : s.text.toList.head? ≠ some '\ufeff' := by
    unfold text
    dsimp only
    split <;> simp only [String.toList_append, List.append_assoc] <;> exact nofun
  rw [read, Toml.readDocument, Toml.readStatements_of_reads (reads_text s) hmark, Option.bind_some,
    ofStatements?_statements, Option.bind_some, ofDocument?_document]

end LineAtlas.Settings
