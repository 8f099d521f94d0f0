import LineAtlas.Text.Lines

/-!
# Paths

A path is a text whose pieces stand between slashes; one that begins with a slash is absolute.  A piece that is empty
or a single point names nothing, except that a point at the front of a relative path counts.  `ancestors` gives the
paths of the directories around the thing that a path names, the nearest first.
-/

namespace LineAtlas.Files.Path

/-- Whether a path begins at the root. -/
def isAbsolute (path : String) : Bool := path.toList.head? = some '/'

/-- A path taken from a base; an absolute path does not depend on the base. -/
def join (base path : String) : String :=
  if isAbsolute path then path
  else if base = "" || base.toList.getLast? = some '/' then base ++ path
  else base ++ "/" ++ path

/-- The pieces of a path between its slashes. -/
def pieces (path : String) : List String := (Text.splitAt '/' path.toList).map String.ofList

/-- Whether a piece names nothing. -/
def isVoid (piece : List Char) : Bool := piece = [] || piece = ['.']

/-- The front of a path that is no ordinary piece, and the rest. -/
def splitFront : List Char → List Char × List Char
  | '/' :: rest => (['/'], rest)
  | ['.'] => (['.'], [])
  | '.' :: '/' :: rest => (['.'], '/' :: rest)
  | cs => ([], cs)

/-- The path with the given front and pieces, the last piece first. -/
def ofReversed (front : List Char) (pieces : List (List Char)) : List Char :=
  front ++ ['/'].intercalate (pieces.dropWhile isVoid).reverse

/-- The ancestors of a path with the given front and pieces, the last piece first. -/
def ancestorsOf (front : List Char) : List (List Char) → List (List Char)
  | [] => if front = ['.'] then [[]] else []
  | piece :: rest =>
    if isVoid piece then ancestorsOf front rest else ofReversed front rest :: ancestorsOf front rest

/-- The paths of the directories around the thing that a path names, the nearest first. -/
def ancestors (path : String) : List String :=
  let (front, body) := splitFront path.toList
  (ancestorsOf front (Text.splitAt '/' body).reverse).map String.ofList

/-- The path of the directory that holds the thing that a path names. -/
def parent? (path : String) : Option String := (ancestors path).head?

example : ["./s", "a/./b", "/x", "s", "/", "", "."].map parent? =
    [some ".", some "a", some "/", some "", none, none, some ""] := by decide

end LineAtlas.Files.Path
