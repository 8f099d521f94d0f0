import LineAtlas.Fault
import LineAtlas.LineMap.Basic

/-!
# Reading line maps

A line-map file has a header line, which declares the number of generated lines, then that many character maps, a
marker, that many lists of source files, a second marker, and the definitions up to its end.  Blanks around a line do
not count.  `LineMap.read` checks the lines from the first to the last and reports the first that is not acceptable in
its place.
-/

namespace LineAtlas.LineMap

/-- Reads the object after the marker of the header: the number of generated lines. -/
def countOf (payload : String) : Except Flaw Nat :=
  match Json.Value.read payload with
  | .error fault => .error (.badPayload fault)
  | .ok header =>
    match header.field? "count" with
    | none => .error .noCount
    | some v =>
      match v.natural? with
      | none => .error (.badCount v)
      | some count => .ok count

/-- The words by which a map of a newer version is recognised. -/
def newerVersion : List Char := "source map".toList

/-- Reads the header line. -/
def readHeader (line : String) : Except Fault Nat :=
  let cs := Text.trimChars line.toList
  match Text.after? Part.charMaps.marker.toList cs with
  | none =>
    if Text.contains newerVersion cs then .error (.incompatible (String.ofList cs)) else .error (.format .noHeader)
  | some rest =>
    let payload := Text.trimChars rest
    if payload.head? = some '\x7b' then (countOf (String.ofList payload)).mapError .format
    else .error (.format .noPayload)

/-- The start of a comment, which no row may hold. -/
def commentStart : List Char := ['/', '*']

/-- Reads a row of a part; an empty row says nothing. -/
def readRow {α : Type} (part : Part) (blank : α) (decode : String → Except RowFault α) (number : Nat) (line : String) :
    Except Flaw α :=
  let row := Text.trimChars line.toList
  if row.isEmpty then .ok blank
  else if Text.contains commentStart row then .error (.comment number part)
  else (decode (String.ofList row)).mapError (.malformed number part)

/-- Reads the rows of a part, the first of which stands on line `number`. -/
def readRows {α : Type} (part : Part) (blank : α) (decode : String → Except RowFault α) (number count : Nat)
    (lines : List String) : Except Flaw (List α) := do
  let rows ← ((lines.take count).zipIdx number).mapM fun (line, k) => readRow part blank decode k line
  if rows.length < count then throw (.ended part.name (number + rows.length))
  return rows

/-- Checks the marker before a part. -/
def checkMarker (part : Part) (number : Nat) (lines : List String) : Except Flaw Unit :=
  match lines.head? with
  | none => .error (.ended part.marker number)
  | some line =>
    let found := Text.trim line
    if found = part.marker then .ok () else .error (.wrongMarker part number found)

/-- Reads the lines after the header of a file with a given number of generated lines. -/
def readBody (script : String) (count : Nat) (body : List String) : Except Flaw LineMap := do
  let charMaps ← readRows .charMaps .empty (fun s => (CharMap.read s).mapError .charMap) 2 count body
  checkMarker .fileLists (count + 2) (body.drop count)
  let fileLists ← readRows .fileLists [] (fun s => (Json.readStrings s).mapError .fileList) (count + 3) count
    (body.drop (count + 1))
  checkMarker .definitions (2 * count + 3) (body.drop (2 * count + 1))
  return { script, charMaps, fileLists, definitions := (body.drop (2 * count + 2)).map Text.trim }

/-- Reads a line map for a script. -/
def read (script : String) (lines : List String) : Except Fault LineMap :=
  match lines with
  | [] => .error (.format (.tooShort 0))
  | header :: body =>
    if lines.length < leastLines then .error (.format (.tooShort lines.length))
    else
      match readHeader header with
      | .error fault => .error fault
      | .ok count =>
        let room := (lines.length - 3) / 2
        if room < count then .error (.format (.noRoom count room))
        else (readBody script count body).mapError .format

end LineAtlas.LineMap
