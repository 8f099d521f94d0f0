import LineAtlas.Json.Reader

/-!
# Mapping records

A definition is a JSON list of the source file, line and column and of further fields, the first of which names a
symbol.  Absent fields may be null; a file may also be absent as an empty text, `false` or zero, which says that the
compiler added the code.  A line or column that is no whole number of 32 bits is absent.
-/

namespace LineAtlas

/-- Where generated code comes from. -/
structure Record where
  id : Nat
  file : Option String
  line : Option Nat
  column : Option Nat
  extras : List Json.Value
  /-- Set where the definition could not be decoded and the record stands in for it. -/
  undecodable : Bool
  deriving Repr, Inhabited

/-- Why a definition has no record. -/
inductive Record.Fault where
  | json (fault : Json.Fault)
  | fileNotText (v : Json.Value)
  deriving Repr

def Record.Fault.message : Record.Fault → String
  | json fault => fault.message
  | fileNotText v => "original file must be a string, got " ++ v.compact

namespace Record

/-- The record that stands in for a definition that could not be decoded. -/
def standIn (id : Nat) : Record := ⟨id, none, none, none, [], true⟩

/-- The source file that a field names. -/
def fileOf : Option Json.Value → Except Fault (Option String)
  | none => .ok none
  | some v =>
    if v.isFalsy then .ok none
    else
      match v with
      | .string s => .ok (some s)
      | _ => .error (.fileNotText v)

/-- The line or column that a field names. -/
def lineOf (field : Option Json.Value) : Option Nat :=
  (field.bind Json.Value.natural?).filter (· ≤ Numeral.lineLimit)

/-- The record with the given fields. -/
def ofFields (id : Nat) (fields : List Json.Value) : Except Fault Record :=
  (fileOf fields[0]?).map fun file =>
    ⟨id, file, lineOf fields[1]?, lineOf fields[2]?, fields.drop 3, false⟩

/-- Decodes a definition. -/
def decode (id : Nat) (text : String) : Except Fault Record :=
  match Json.readItems text with
  | .error fault => .error (.json fault)
  | .ok fields => ofFields id fields

/-- Whether a record has no fields at all. -/
def isEmpty (r : Record) : Bool := r.file.isNone && r.line.isNone && r.column.isNone && r.extras.isEmpty

/-- The source name of the symbol, the first of the further fields. -/
def symbol? (r : Record) : Option String := r.extras.head?.bind Json.Value.string?

/-- The line and column of a record as text; a column is shown only after a line. -/
def positionText (r : Record) : String :=
  match r.line, r.column with
  | none, _ => ""
  | some line, none => ":" ++ Numeral.ofNat line
  | some line, some column => ":" ++ Numeral.ofNat line ++ ":" ++ Numeral.ofNat column

/-- A record as text. -/
def text (r : Record) : String :=
  let head := "#" ++ Numeral.ofNat r.id ++ " "
  if r.undecodable then head ++ "<undecodable mapping>"
  else if r.isEmpty then head ++ "<no original position>"
  else
    let name := match r.symbol? with
      | some name => " (" ++ name ++ ")"
      | none => ""
    head ++ r.file.getD "<added code>" ++ r.positionText ++ name

/-- A record as JSON: the further fields and the mark of a stand-in only where there are any. -/
def toJson (r : Record) : Json.Value :=
  let extras := if r.extras.isEmpty then [] else [("extras", .array r.extras)]
  let mark := if r.undecodable then [("decode_failed", .bool true)] else []
  .object ([("id", .integer r.id), ("original_file", .ofOption r.file), ("original_line", .ofNat? r.line),
    ("original_column", .ofNat? r.column)] ++ extras ++ mark)

end Record

end LineAtlas
