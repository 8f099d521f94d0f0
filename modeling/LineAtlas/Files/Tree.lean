import LineAtlas.Files.Error
import LineAtlas.Files.Path

/-!
# File trees

A tree holds directories and files by place, the names on the way from the root, and has a working directory, from
which relative paths start.  `node?` is the view of a tree: it says what stands at a place, and `put` changes it there
and nowhere else.  `follow` finds the place that a path leads to; reading, writing and making directories fail with the
error of the first piece that cannot be followed.
-/

namespace LineAtlas.Files

/-- What can stand at a place of a tree. -/
inductive Node where
  | file (content : ByteArray)
  | directory

instance : DecidableEq Node
  | .directory, .directory => isTrue rfl
  | .directory, .file _ | .file _, .directory => isFalse nofun
  | .file a, .file b =>
    match ByteArray.instDecidableEq a b with
    | isTrue h => isTrue (congrArg Node.file h)
    | isFalse h => isFalse fun e => h (Node.file.inj e)

/-- The names on the way from the root. -/
abbrev Place := List String

structure Tree where
  workingDirectory : Place
  nodes : List (Place × Node)
  deriving DecidableEq

/-- The longest name of a file or a directory, in bytes. -/
def nameLimit : Nat := 255

/-- The longest path, in bytes. -/
def pathLimit : Nat := 4095

namespace Tree

/-- What stands at a place; the root is always a directory. -/
def node? (t : Tree) (place : Place) : Option Node :=
  if place = [] then some .directory else t.nodes.lookup place

/-- The tree with another node at a place. -/
def put (t : Tree) (place : Place) (node : Node) : Tree :=
  { t with nodes := (place, node) :: t.nodes }

@[simp] theorem workingDirectory_put (t : Tree) (place : Place) (node : Node) :
    (t.put place node).workingDirectory = t.workingDirectory := rfl

theorem node?_put_self (t : Tree) {place : Place} (node : Node) (h : place ≠ []) :
    (t.put place node).node? place = some node := by
  simp [node?, put, h]

theorem node?_put_ne (t : Tree) {place other : Place} (node : Node) (h : other ≠ place) :
    (t.put place node).node? other = t.node? other := by
  have : (other == place) = false := beq_false_of_ne h
  simp [node?, put, List.lookup_cons, this]

/-- The empty tree below a working directory. -/
def below (workingDirectory : Place) : Tree :=
  ⟨workingDirectory, (List.range workingDirectory.length).map fun k => (workingDirectory.take (k + 1), .directory)⟩

/-! ### Following paths -/

/-- One step of a path: from a directory to the thing that a piece names. -/
def step (t : Tree) (place : Place) (piece : String) : Except Error Place :=
  match t.node? place with
  | none => .error .noEntry
  | some (.file _) => .error .notDirectory
  | some .directory =>
    if piece = "" || piece = "." then .ok place
    else if piece = ".." then .ok place.dropLast
    else if nameLimit < piece.utf8ByteSize then .error .nameTooLong
    else .ok (place ++ [piece])

/-- Where the first pieces of a path lead. -/
def follow (t : Tree) (path : String) (pieces : List String) : Except Error Place :=
  if path.toList.contains '\x00' then .error .nulInPath
  else if path = "" then .error .noEntry
  else if pathLimit < path.utf8ByteSize then .error .nameTooLong
  else pieces.foldlM t.step (if Path.isAbsolute path then [] else t.workingDirectory)

/-- The place that a path names; nothing needs to stand there. -/
def locate (t : Tree) (path : String) : Except Error Place := t.follow path (Path.pieces path)

/-- The pieces of a path without the slashes at its end. -/
def namedPieces (path : String) : List String := ((Path.pieces path).reverse.dropWhile (· = "")).reverse

/-- The place that a path names for a thing that is to be made. -/
def locateNew (t : Tree) (path : String) : Except Error Place := t.follow path (namedPieces path)

/-- What a path leads to. -/
def find? (t : Tree) (path : String) : Option Node :=
  match t.locate path with
  | .ok place => t.node? place
  | .error _ => none

/-- Whether a path leads to something. -/
def exists? (t : Tree) (path : String) : Bool := (t.find? path).isSome

/-- Whether a path leads to a directory. -/
def isDirectory (t : Tree) (path : String) : Bool := t.find? path = some .directory

/-! ### Reading and writing -/

/-- The content of a file. -/
def read (t : Tree) (path : String) : Except Error ByteArray :=
  match t.locate path with
  | .error e => .error e
  | .ok place =>
    match t.node? place with
    | none => .error .noEntry
    | some .directory => .error .isDirectory
    | some (.file content) => .ok content

/-- The content of a file that holds text. -/
def readText (t : Tree) (path : String) : Except Error String :=
  match t.read path with
  | .error e => .error e
  | .ok content =>
    match String.fromUTF8? content with
    | none => .error .notText
    | some text => .ok text

/-- The tree after a file has been written; a path that ends with a slash names no file. -/
def write (t : Tree) (path : String) (content : ByteArray) : Except Error Tree :=
  match t.locateNew path with
  | .error e => .error e
  | .ok place =>
    if (namedPieces path).length < (Path.pieces path).length then .error .isDirectory
    else
      match t.node? place with
      | some .directory => .error .isDirectory
      | _ => .ok (t.put place (.file content))

/-- The tree after a text has been written to a file. -/
def writeText (t : Tree) (path text : String) : Except Error Tree := t.write path text.toUTF8

/-- The tree after a directory has been made. -/
def makeDirectory (t : Tree) (path : String) : Except Error Tree :=
  match t.locateNew path with
  | .error e => .error e
  | .ok place => if (t.node? place).isSome then .error .entryExists else .ok (t.put place .directory)

/-- The outcome of making a directory, which is no failure where there is one already. -/
def settleDirectory (t : Tree) (path : String) : Except Error Unit × Tree :=
  match t.makeDirectory path with
  | .ok made => (.ok (), made)
  | .error e => (if t.isDirectory path then .ok () else .error e, t)

/-- Makes the first of some directories, of which each holds the one before it, and those that it needs. -/
def makeChain (t : Tree) : List String → Except Error Unit × Tree
  | [] => (.error .noEntry, t)
  | path :: outer =>
    if path = "" then (.ok (), t)
    else
      match t.makeDirectory path with
      | .error .noEntry =>
        match t.makeChain outer with
        | (.error e, made) => (.error e, made)
        | (.ok (), made) => made.settleDirectory path
      | _ => t.settleDirectory path

/-- Makes a directory and those around it, as far as they are missing; those already made stay also after a failure. -/
def makeDirectories (t : Tree) (path : String) : Except Error Unit × Tree :=
  t.makeChain (path :: Path.ancestors path)

/-- What differs from an earlier tree, with what stands there now. -/
def changesSince (t before : Tree) : List (Place × Node) :=
  ((t.nodes.map Prod.fst).eraseDups.filterMap fun place => (t.node? place).map (place, ·)).filter fun (place, node) =>
    before.node? place ≠ some node

end Tree

end LineAtlas.Files
