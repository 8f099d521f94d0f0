import LineAtlas.Toml.Scalar

/-!
# Reading TOML

A file is a list of statements: headers, which open a table, and named values.  `readStatements` takes a text apart
into its statements; what they mean together is the matter of `Toml.Document`.  Arrays and tables in braces nest at
most 79 deep, and a key has at most 79 parts.
-/

namespace LineAtlas.Toml

/-- The deepest nesting of values, and the longest key. -/
def depthLimit : Nat := 79

/-! ### Between tokens -/

/-- The text without the blanks at its front. -/
def dropBlanks (cs : List Char) : List Char := cs.dropWhile isBlank

/-- The text without the blanks, line ends and whole comments at its front; inside a comment if so said. -/
def dropGap : Bool → List Char → List Char
  | _, [] => []
  | false, c :: rest =>
    if isBlank c || c = '\n' || c = '\r' && atLineFeed rest then dropGap false rest
    else if c = '#' then dropGap true rest
    else c :: rest
  | true, c :: rest =>
    if c = '\n' then dropGap false rest
    else if isPlain c || c = '\r' && atLineFeed rest then dropGap true rest
    else c :: rest

/-- The text after the end of a line, before which a comment may stand. -/
def lineEnd? (cs : List Char) : Option (List Char) :=
  let rest := match dropBlanks cs with
    | '#' :: rest => rest.dropWhile isPlain
    | rest => rest
  match rest with
  | [] => some []
  | '\n' :: rest => some rest
  | '\r' :: '\n' :: rest => some rest
  | _ => none

/-! ### Keys -/

/-- The characters of a key without quotes. -/
def isKeyChar (c : Char) : Bool := c.isAlphanum || c = '_' || c = '-'

/-- Reads one part of a key. -/
def readKeyPart (cs : List Char) : Option (List Char × List Char) :=
  match cs with
  | [] => none
  | c :: rest =>
    if c = '"' || c = '\'' then readLineText c rest
    else
      let (key, rest) := cs.span isKeyChar
      if key.isEmpty then none else some (key, rest)

/-- Reads a key of at most so many parts, with the blanks around each. -/
def readKeyParts : Nat → Reader (List String)
  | 0, _ => none
  | limit + 1, cs =>
    match readKeyPart (dropBlanks cs) with
    | none => none
    | some (part, rest) =>
      match dropBlanks rest with
      | '.' :: rest => (readKeyParts limit rest).map fun (parts, rest) => (String.ofList part :: parts, rest)
      | rest => some ([String.ofList part], rest)

/-- Reads a key. -/
def readKey (cs : List Char) : Option (List String × List Char) := readKeyParts depthLimit cs

/-- Reads a key, an equality sign and a value. -/
def readPair (value : Reader Value) (cs : List Char) : Option ((List String × Value) × List Char) :=
  match readKey cs with
  | some (key, '=' :: rest) => (value (dropBlanks rest)).map fun (v, rest) => ((key, v), rest)
  | _ => none

/-! ### Tables -/

/-- Whether a key leads to a new name in a table that may still be added to.  A key with points leads through tables
that such keys have made and through no others. -/
def insertAt (key : List String) (v : Value) (through : Bool) (origin : Origin) (fields : Fields) : Option Fields :=
  match key with
  | [] => none
  | [name] =>
    if through && origin ≠ .dotted then none
    else if (fields.lookup name).isSome then none
    else some (fields ++ [(name, v)])
  | name :: key =>
    match fields.lookup name with
    | none => (insertAt key v true .dotted []).map fun inner => fields ++ [(name, .table .dotted inner)]
    | some (.table origin inner) =>
      if origin = .braces || origin = .header then none
      else (insertAt key v true origin inner).map fun inner => fields.replace name (.table origin inner)
    | some (.tables elements) =>
      match elements.getLast? with
      | none => none
      | some last =>
        (insertAt key v true .header last).map fun last => fields.replace name (.tables (elements.dropLast ++ [last]))
    | some _ => none

/-- The fields that named values make when they are added to others. -/
def Fields.insertAll (origin : Origin) (fields : Fields) (pairs : List (List String × Value)) : Option Fields :=
  pairs.foldlM (fun fields (key, v) => insertAt key v false origin fields) fields

/-! ### Values -/

/-- Reads the items of an array after its bracket; the first number bounds how many there are. -/
def readItems (value : Reader Value) : Nat → Reader (List Value)
  | 0, _ => none
  | bound + 1, cs =>
    match dropGap false cs with
    | ']' :: rest => some ([], rest)
    | cs =>
      match value cs with
      | none => none
      | some (v, rest) =>
        match dropGap false rest with
        | ',' :: rest => (readItems value bound rest).map fun (vs, rest) => (v :: vs, rest)
        | ']' :: rest => some ([v], rest)
        | _ => none

/-- Reads the named values of a table in braces, of which there is at least one. -/
def readPairs (value : Reader Value) : Nat → Reader (List (List String × Value))
  | 0, _ => none
  | bound + 1, cs =>
    match readPair value cs with
    | none => none
    | some (pair, rest) =>
      match dropBlanks rest with
      | ',' :: rest => (readPairs value bound rest).map fun (pairs, rest) => (pair :: pairs, rest)
      | '\x7d' :: rest => some ([pair], rest)
      | _ => none

/-- Reads a table after its brace. -/
def readBraces (value : Reader Value) (cs : List Char) : Option (Value × List Char) :=
  match dropBlanks cs with
  | '\x7d' :: rest => some (.table .braces [], rest)
  | cs =>
    match readPairs value cs.length cs with
    | none => none
    | some (pairs, rest) => (Fields.insertAll .braces [] pairs).map fun fields => (.table .braces fields, rest)

/-- Reads a value in which arrays and tables nest at most so deep. -/
def readValueIn : Nat → Reader Value
  | _, [] => none
  | depth, c :: rest =>
    if c = '"' || c = '\'' then (readText c rest).map fun (s, rest) => (.text (String.ofList s), rest)
    else if c = '[' then
      match depth with
      | 0 => none
      | depth + 1 => (readItems (readValueIn depth) (rest.length + 1) rest).map fun (vs, rest) => (.array vs, rest)
    else if c = '\x7b' then
      match depth with
      | 0 => none
      | depth + 1 => readBraces (readValueIn depth) rest
    else readScalar (c :: rest)

/-- Reads a value. -/
def readValue (cs : List Char) : Option (Value × List Char) := readValueIn depthLimit cs

/-! ### Statements -/

inductive Statement where
  /-- The header of a table. -/
  | table (key : List String)
  /-- The header of one more table of a list. -/
  | element (key : List String)
  | pair (key : List String) (v : Value)
  deriving Repr

/-- Reads a header after its first bracket. -/
def readHeader : Reader Statement
  | '[' :: rest =>
    match readKey rest with
    | some (key, ']' :: ']' :: rest) => some (.element key, rest)
    | _ => none
  | rest =>
    match readKey rest with
    | some (key, ']' :: rest) => some (.table key, rest)
    | _ => none

/-- Reads a statement. -/
def readStatement : Reader Statement
  | '[' :: rest => readHeader rest
  | rest => (readPair readValue rest).map fun ((key, v), rest) => (.pair key v, rest)

/-- Reads the statements of a text, each of which ends with its line; the number bounds how many lines there are. -/
def readLines : Nat → List Char → Option (List Statement)
  | 0, _ => none
  | bound + 1, cs =>
    match dropBlanks cs with
    | [] => some []
    | cs =>
      match lineEnd? cs with
      | some rest => readLines bound rest
      | none =>
        match readStatement cs with
        | none => none
        | some (statement, rest) =>
          match lineEnd? rest with
          | none => none
          | some rest => (readLines bound rest).map (statement :: ·)

/-- Reads the statements of a file, at the front of which a byte order mark may stand. -/
def readStatements (s : String) : Option (List Statement) :=
  let cs := match s.toList with
    | '\ufeff' :: rest => rest
    | cs => cs
  readLines (cs.length + 1) cs

end LineAtlas.Toml
