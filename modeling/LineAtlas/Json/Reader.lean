import LineAtlas.Json.Number

/-!
# Reading JSON

`Value.read` reads one value with blanks around it and nothing else.  `readItems` reads a list of values and
`readStrings` a list of strings; where the text holds a value of another kind, that value is read first, so that a
fault inside it comes before the fault that it is not wanted.  Brackets nest at most 127 deep.
-/

namespace LineAtlas.Json

/-- The four blanks between tokens. -/
def isGap (c : Char) : Bool := c = ' ' || c = '\t' || c = '\n' || c = '\r'

/-- Passes over blanks. -/
def skipFrom (place : Place) : List Char → Cursor
  | [] => ⟨[], place⟩
  | c :: rest => if isGap c then skipFrom (place.after c) rest else ⟨c :: rest, place⟩

/-- A cursor without the blanks at its front. -/
def Cursor.skip (cur : Cursor) : Cursor := skipFrom cur.place cur.rest

/-- Reads the rest of a word. -/
def wordFrom (place : Place) : List Char → List Char → Except Fault Cursor
  | [], rest => .ok ⟨rest, place⟩
  | _ :: _, [] => failAt .endInValue place
  | e :: es, c :: rest => if c = e then wordFrom (place.after c) es rest else failAt .noWord (place.within c)

/-- Reads a word and gives the value it stands for. -/
def word {α : Type} (place : Place) (spelling : String) (v : α) (rest : List Char) :
    Except Fault (α × Cursor) := do
  let cur ← wordFrom place spelling.toList rest
  return (v, cur)

/-- The place after a number of bytes, and whether the text has that many. -/
def afterBytes : Nat → Place → List Char → Place × Bool
  | 0, place, _ => (place, true)
  | _ + 1, place, [] => (place, false)
  | n + 1, place, c :: rest =>
    if c.utf8Size ≤ n + 1 then afterBytes (n + 1 - c.utf8Size) (place.after c) rest
    else (⟨place.line, place.column + (n + 1)⟩, true)
termination_by n => n
decreasing_by have := c.utf8Size_pos; omega

/-- Reads four hexadecimal digits. -/
def hexQuad (place : Place) (rest : List Char) : Result Nat :=
  let (next, enough) := afterBytes 4 place rest
  if !enough then failAt .endInString next
  else
    match rest with
    | a :: b :: c :: d :: more =>
      match Numeral.hexDigit? a, Numeral.hexDigit? b, Numeral.hexDigit? c, Numeral.hexDigit? d with
      | some a, some b, some c, some d => .ok (((16 * a + b) * 16 + c) * 16 + d, ⟨more, next⟩)
      | _, _, _, _ => failAt .badEscape next
    | _ => failAt .badEscape next

/-- Reads one given character of an escape. -/
def escapeSign (sign : Char) (place : Place) (rest : List Char) : Except Fault Cursor :=
  match rest with
  | [] => failAt .endInString place
  | c :: more => if c = sign then .ok ⟨more, place.after c⟩ else failAt .leadSurrogateAlone (place.within c)

/-- Reads the code of an escape after its `u`: one code, or two for a character beyond sixteen bits. -/
def escapedCode (place : Place) (rest : List Char) : Except Fault (Char × Cursor) := do
  let (n, cur) ← hexQuad place rest
  if 0xDC00 ≤ n && n ≤ 0xDFFF then failAt .trailSurrogateFirst cur.place
  else if n < 0xD800 || 0xDBFF < n then return (Char.ofNat n, cur)
  else
    let cur ← escapeSign '\\' cur.place cur.rest
    let cur ← escapeSign 'u' cur.place cur.rest
    let (m, cur) ← hexQuad cur.place cur.rest
    if m < 0xDC00 || 0xDFFF < m then failAt .trailSurrogateFirst cur.place
    else return (Char.ofNat ((n - 0xD800) * 0x400 + (m - 0xDC00) + 0x10000), cur)

/-- Reads an escape after its backslash. -/
def escaped (place : Place) (rest : List Char) : Result Char :=
  match rest with
  | [] => failAt .endInString place
  | c :: more =>
    let next := place.after c
    match c with
    | '"' => .ok ('"', ⟨more, next⟩)
    | '\\' => .ok ('\\', ⟨more, next⟩)
    | '/' => .ok ('/', ⟨more, next⟩)
    | 'b' => .ok ('\x08', ⟨more, next⟩)
    | 'f' => .ok ('\x0c', ⟨more, next⟩)
    | 'n' => .ok ('\n', ⟨more, next⟩)
    | 'r' => .ok ('\r', ⟨more, next⟩)
    | 't' => .ok ('\t', ⟨more, next⟩)
    | 'u' => escapedCode next more
    | _ => failAt .badEscape (place.within c)

/-- Reads the rest of a string; `done` holds its characters so far in reverse.  Every step takes a character, so the
number of characters left is enough fuel. -/
def stringFrom : Nat → List Char → Place → List Char → Result String
  | 0, _, place, _ => failAt .endInString place
  | _ + 1, _, place, [] => failAt .endInString place
  | fuel + 1, done, place, c :: rest =>
    if c = '"' then .ok (String.ofList done.reverse, ⟨rest, place.after c⟩)
    else if c = '\\' then
      match escaped (place.after c) rest with
      | .error fault => .error fault
      | .ok (e, cur) => stringFrom fuel (e :: done) cur.place cur.rest
    else if c.toNat < 0x20 then failAt .controlCharacter (place.within c)
    else stringFrom fuel (c :: done) (place.after c) rest

/-- Reads a string after its opening quote. -/
def stringBody (place : Place) (rest : List Char) : Result String :=
  stringFrom (rest.length + 1) [] place rest

/-- Passes over the comma before an item or a field; the mark closes the brackets, and only that must not follow. -/
def afterComma (closing : Char) (cur : Cursor) : Except Fault Cursor :=
  let next := cur.skip
  match next.rest with
  | [] => failAt .endInValue next.place
  | c :: _ => if c = closing then failAt .trailingComma (next.place.within c) else .ok next

/-- Passes over what stands before an item of a list: nothing before the first, a comma before the others. -/
def beforeItem (isFirst : Bool) (cur : Cursor) : Except Fault Cursor :=
  match cur.rest with
  | [] => failAt .endInList cur.place
  | c :: rest =>
    if isFirst then .ok cur
    else if c = ',' then afterComma ']' ⟨rest, cur.place.after c⟩
    else failAt .noListEnd (cur.place.within c)

/-- Reads items up to the closing bracket of a list; `done` holds the items so far in reverse.  Every item takes a
character, so the number of characters left is enough fuel. -/
def itemsFrom {α : Type} (item : Cursor → Result α) : Nat → List α → Cursor → Result (List α)
  | 0, _, cur => failAt .endInList cur.place
  | fuel + 1, done, cur =>
    let cur := cur.skip
    match cur.rest with
    | ']' :: rest => .ok (done.reverse, ⟨rest, cur.place.after ']'⟩)
    | _ =>
      match beforeItem done.isEmpty cur with
      | .error fault => .error fault
      | .ok next =>
        match item next with
        | .error fault => .error fault
        | .ok (v, next) => itemsFrom item fuel (v :: done) next

/-- Reads a list after its opening bracket. -/
def items {α : Type} (item : Cursor → Result α) (cur : Cursor) : Result (List α) :=
  itemsFrom item (cur.rest.length + 1) [] cur

/-- Passes over what stands before the name of a field, and over its opening quote. -/
def beforeField (isFirst : Bool) (cur : Cursor) : Except Fault Cursor :=
  match cur.rest with
  | [] => failAt .endInObject cur.place
  | c :: rest =>
    let start : Except Fault Cursor :=
      if isFirst then .ok cur
      else if c = ',' then afterComma '\x7d' ⟨rest, cur.place.after c⟩
      else failAt .noObjectEnd (cur.place.within c)
    match start with
    | .error fault => .error fault
    | .ok next =>
      match next.rest with
      | '"' :: more => .ok ⟨more, next.place.after '"'⟩
      | d :: _ => failAt .keyNotString (next.place.within d)
      | [] => failAt .endInValue next.place

/-- Passes over the colon between a name and its value. -/
def colon (cur : Cursor) : Except Fault Cursor :=
  let cur := cur.skip
  match cur.rest with
  | [] => failAt .endInObject cur.place
  | c :: rest => if c = ':' then .ok ⟨rest, cur.place.after c⟩ else failAt .noColon (cur.place.within c)

/-- Reads a field: what stands before it, its name, the colon and its value. -/
def field (item : Cursor → Result Value) (isFirst : Bool) (cur : Cursor) :
    Except Fault ((String × Value) × Cursor) := do
  let cur ← beforeField isFirst cur
  let (name, cur) ← stringBody cur.place cur.rest
  let cur ← colon cur
  let (v, cur) ← item cur
  return ((name, v), cur)

/-- Reads fields up to the closing brace of an object; the last of several fields of one name counts. -/
def fieldsFrom (item : Cursor → Result Value) :
    Nat → Bool → List (String × Value) → Cursor → Result (List (String × Value))
  | 0, _, _, cur => failAt .endInObject cur.place
  | fuel + 1, isFirst, done, cur =>
    let cur := cur.skip
    match cur.rest with
    | '\x7d' :: rest => .ok (done, ⟨rest, cur.place.after '\x7d'⟩)
    | _ =>
      match field item isFirst cur with
      | .error fault => .error fault
      | .ok ((name, v), next) => fieldsFrom item fuel false (setField name v done) next

/-- Reads an object after its opening brace. -/
def fields (item : Cursor → Result Value) (cur : Cursor) : Result (List (String × Value)) :=
  fieldsFrom item (cur.rest.length + 1) true [] cur

/-- Reads a value; `list` and `object` read those after their opening brackets. -/
def valueWith (list object : Cursor → Result Value) (start : Cursor) : Result Value :=
  let cur := start.skip
  match cur.rest with
  | [] => failAt .endInValue cur.place
  | c :: rest =>
    let next := cur.place.after c
    match c with
    | 'n' => word next "ull" .null rest
    | 't' => word next "rue" (.bool true) rest
    | 'f' => word next "alse" (.bool false) rest
    | '-' => number true ⟨rest, next⟩
    | '"' => (stringBody next rest).map fun (s, cur) => (.string s, cur)
    | '[' => list ⟨rest, next⟩
    | '\x7b' => object ⟨rest, next⟩
    | _ => if c.isDigit then number false cur else failAt .noValue (cur.place.within c)

/-- Refuses a bracket that is nested too deep; the place after a bracket is the place of the fault. -/
def refuse {α : Type} (cur : Cursor) : Result α := failAt .tooDeep cur.place

/-- Reads a value in which brackets nest at most `depth` deep. -/
def value : Nat → Cursor → Result Value
  | 0, cur => valueWith refuse refuse cur
  | depth + 1, cur =>
    valueWith (fun c => (items (value depth) c).map fun (vs, next) => (.array vs, next))
      (fun c => (fields (value depth) c).map fun (fs, next) => (.object fs, next)) cur

/-- How deep brackets may nest. -/
def nestingLimit : Nat := 127

/-- What a value is when it is not of the kind that was wanted. -/
def Value.found : Value → Found
  | .null => .null
  | .bool b => .bool b
  | .integer n => .integer n
  | .real negative size => .real negative size
  | .string s => .string s
  | .array _ => .sequence
  | .object _ => .map

/-- Reads a value of a kind that is not wanted and reports it where it ends, a list or an object where it begins. -/
def misplaced {α : Type} (wanted : Wanted) (start : Cursor) : Result α :=
  let cur := start.skip
  let whole (v : Value) : Cursor → Result Value := fun _ => .ok (v, cur)
  match valueWith (whole (.array [])) (whole (.object [])) cur with
  | .error fault => .error fault
  | .ok (v, next) => failAt (.wrongKind v.found wanted) next.place

/-- Reads a list of items. -/
def listOf {α : Type} (item : Cursor → Result α) (start : Cursor) : Result (List α) :=
  let cur := start.skip
  match cur.rest with
  | '[' :: rest => items item ⟨rest, cur.place.after '['⟩
  | _ => misplaced .sequence cur

/-- Reads a string. -/
def text (start : Cursor) : Result String :=
  let cur := start.skip
  match cur.rest with
  | '"' :: rest => stringBody (cur.place.after '"') rest
  | _ => misplaced .string cur

/-- Reads a whole text with one reader: blanks may follow, nothing else. -/
def readAll {α : Type} (reader : Cursor → Result α) (s : String) : Except Fault α := do
  let (v, cur) ← reader (.ofString s)
  let cur := cur.skip
  match cur.rest with
  | [] => return v
  | c :: _ => failAt .trailingText (cur.place.within c)

/-- Reads a text that is one value. -/
def Value.read (s : String) : Except Fault Value := readAll (value nestingLimit) s

/-- Reads a text that is a list of values. -/
def readItems (s : String) : Except Fault (List Value) := readAll (listOf (value (nestingLimit - 1))) s

/-- Reads a text that is a list of strings. -/
def readStrings (s : String) : Except Fault (List String) := readAll (listOf text) s

end LineAtlas.Json
