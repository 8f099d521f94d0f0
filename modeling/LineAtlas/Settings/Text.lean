import LineAtlas.Settings.Basic
import LineAtlas.Toml.Document
import LineAtlas.Toml.Writer

/-!
# Settings as text

A settings file has a table `output` with the format of answers and a list `context` with a table for each block.
`Settings.read` takes also lists in the place of these tables, whose items then count in order, and passes over names
that it does not know; `Settings.text` writes what `read` reads.
-/

namespace LineAtlas.Settings

open Toml (Value Fields)

/-- A text that may be missing. -/
def optionalText? : Option Value → Option (Option String)
  | none => some none
  | some (.text s) => some (some s)
  | some _ => none

/-- The format that the value of `output` gives. -/
def formatOf? : Option Value → Option (Option String)
  | none => some none
  | some (.table _ fields) => optionalText? (fields.lookup "format")
  | some (.array items) => optionalText? items[0]?
  | some (.scalar .dateTime) => some none
  | some _ => none

/-- The block with the given values. -/
def blockWith? (script lineMap root : Option Value) : Option Block :=
  match script with
  | some (.text script) => do return ⟨script, ← optionalText? lineMap, ← optionalText? root⟩
  | _ => none

/-- The block that the fields of a table give. -/
def blockOfFields? (fields : Fields) : Option Block :=
  blockWith? (fields.lookup "url") (fields.lookup "source_map") (fields.lookup "root_path")

/-- The block that an item of a list gives. -/
def blockOf? : Value → Option Block
  | .table _ fields => blockOfFields? fields
  | .array items => blockWith? items[0]? items[1]? items[2]?
  | _ => none

/-- The blocks that the value of `context` gives. -/
def blocksOf? : Option Value → Option (List Block)
  | none => some []
  | some (.array items) => items.mapM blockOf?
  | some (.tables elements) => elements.mapM blockOfFields?
  | some _ => none

/-- The settings that a document gives. -/
def ofDocument? (fields : Fields) : Option Settings := do
  return ⟨← formatOf? (fields.lookup "output"), ← blocksOf? (fields.lookup "context")⟩

/-- Reads settings. -/
def read (s : String) : Option Settings := (Toml.readDocument s).bind ofDocument?

/-- A line for a value, if there is one. -/
def optionalLine (key : String) (value : Option String) : String := (value.map (Toml.writeLine key)).getD ""

/-- A block as text. -/
def Block.text (b : Block) : String :=
  "\n[[context]]\n" ++ Toml.writeLine "url" b.script ++ optionalLine "source_map" b.lineMap ++
    optionalLine "root_path" b.root

/-- Settings as text. -/
def text (s : Settings) : String :=
  let empty := if s.blocks.isEmpty then "context = []\n\n" else ""
  empty ++ "[output]\n" ++ optionalLine "format" s.format ++ String.join (s.blocks.map Block.text)

end LineAtlas.Settings
