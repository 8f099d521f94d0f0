import LineAtlas.Toml.Reader

/-!
# TOML documents

The statements of a file make one table.  Named values belong to the header before them.  A header may name a table
that is not there yet, or one that so far was only named on the way to another; a header in double brackets adds a
table to a list of such tables and to nothing else.  On the way to its table a header makes the tables that are missing
and, of a list of tables, takes the last.
-/

namespace LineAtlas.Toml

/-- A header with the named values under it. -/
structure Section where
  /-- Whether the header adds a table to a list. -/
  isElement : Bool
  key : List String
  pairs : List (List String × Value)
  deriving Repr

/-- The named values before the first header, and the sections. -/
def sectionsOf : List Statement → List (List String × Value) × List Section
  | [] => ([], [])
  | .pair key v :: rest => ((key, v) :: (sectionsOf rest).1, (sectionsOf rest).2)
  | .table key :: rest => ([], ⟨false, key, (sectionsOf rest).1⟩ :: (sectionsOf rest).2)
  | .element key :: rest => ([], ⟨true, key, (sectionsOf rest).1⟩ :: (sectionsOf rest).2)

/-- The fields of a table with the table of a section under the last part of its key. -/
def Section.place (sec : Section) (name : String) (fields : Fields) : Option Fields :=
  let filled (start : Fields) : Option Fields := start.insertAll .header sec.pairs
  match sec.isElement, fields.lookup name with
  | false, none => (filled []).map fun inner => fields ++ [(name, .table .header inner)]
  | false, some (.table .implied start) => (filled start).map fun inner => fields.replace name (.table .header inner)
  | true, none => (filled []).map fun inner => fields ++ [(name, .tables [inner])]
  | true, some (.tables elements) =>
    (filled []).map fun inner => fields.replace name (.tables (elements ++ [inner]))
  | _, some _ => none

/-- The fields with the table of a section at the end of a key. -/
def Section.addAt (sec : Section) : List String → Fields → Option Fields
  | [], _ => none
  | [name], fields => sec.place name fields
  | name :: key, fields =>
    match fields.lookup name with
    | none => (sec.addAt key []).map fun inner => fields ++ [(name, .table .implied inner)]
    | some (.table .braces _) => none
    | some (.table origin inner) => (sec.addAt key inner).map fun inner => fields.replace name (.table origin inner)
    | some (.tables elements) =>
      match elements.getLast? with
      | none => none
      | some last => (sec.addAt key last).map fun last => fields.replace name (.tables (elements.dropLast ++ [last]))
    | some _ => none

/-- The table that the statements of a file make. -/
def ofStatements? (statements : List Statement) : Option Fields := do
  let (pairs, sections) := sectionsOf statements
  sections.foldlM (fun fields sec => sec.addAt sec.key fields) (← Fields.insertAll .header [] pairs)

/-- Reads a file. -/
def readDocument (s : String) : Option Fields := (readStatements s).bind ofStatements?

end LineAtlas.Toml
