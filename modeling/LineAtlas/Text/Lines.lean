/-!
# Pieces of a text

`splitAt` cuts a list at every occurrence of one item and keeps empty pieces, so that `n` separators give `n + 1`
pieces.  `linesWith` cuts at line feeds; a carriage return right before a line feed belongs to the line end, and a line
end after the last line opens no further line.  `lines` gives the lines of a text and `byteLines` those of a sequence of
bytes, each of which may or may not be text.
-/

namespace LineAtlas.Text

/-- One step of `splitAt`, from the right: a separator opens a new piece, any other item joins the first. -/
def splitStep {α : Type} [DecidableEq α] (sep c : α) (pieces : List (List α)) : List (List α) :=
  if c = sep then [] :: pieces
  else
    match pieces with
    | [] => [[c]]
    | piece :: rest => (c :: piece) :: rest

/-- The pieces between the occurrences of `sep`. -/
def splitAt {α : Type} [DecidableEq α] (sep : α) (cs : List α) : List (List α) :=
  cs.foldr (splitStep sep) [[]]

/-- A line without the carriage return that stood before its line feed. -/
def dropReturn {α : Type} [DecidableEq α] (ret : α) (line : List α) : List α :=
  if line.getLast? = some ret then line.dropLast else line

/-- The lines of a text: every piece but the last ended with a line feed, and an empty last piece is no line. -/
def linesWith {α : Type} [DecidableEq α] (feed ret : α) (cs : List α) : List (List α) :=
  let pieces := splitAt feed cs
  pieces.dropLast.map (dropReturn ret) ++ (pieces.getLast?.filter (!·.isEmpty)).toList

/-- The lines of a text. -/
def lines (s : String) : List String :=
  (linesWith '\n' '\r' s.toList).map String.ofList

/-- The lines of a sequence of bytes, as far as they are UTF-8. -/
def byteLines (content : ByteArray) : List (Option String) :=
  (linesWith 10 13 content.toList).map fun line => String.fromUTF8? ⟨line.toArray⟩

/-- What follows `front` at the front of a text. -/
def after? (front cs : List Char) : Option (List Char) :=
  if front.isPrefixOf cs then some (cs.drop front.length) else none

/-- Whether `needle` occurs somewhere in a text. -/
def contains (needle : List Char) : List Char → Bool
  | [] => needle.isEmpty
  | c :: cs => needle.isPrefixOf (c :: cs) || contains needle cs

end LineAtlas.Text
