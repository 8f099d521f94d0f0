import LineAtlas.Event
import LineAtlas.Files.Tree
import LineAtlas.LineMap.Reader

/-!
# Providers of line maps

The lines of a map come from a shelf of texts kept by address, or from the files of a tree, where an address is a path
with or without `file://` in front.  `Provider.loadMap` reads the map at an address and reports what it does; a fault of
the file says that there are no lines, any other fault that the lines are no map.
-/

namespace LineAtlas

/-- Texts by address. -/
structure Shelf where
  texts : List (String × List String)
  deriving DecidableEq, Repr

namespace Shelf

def empty : Shelf := ⟨[]⟩

/-- The shelf with a text in the place of the one at its address. -/
def insert (shelf : Shelf) (address content : String) : Shelf := ⟨(address, Text.lines content) :: shelf.texts⟩

/-- The lines of the text at an address. -/
def lines? (shelf : Shelf) (address : String) : Option (List String) := shelf.texts.lookup address

end Shelf

/-- What gives the lines of maps. -/
inductive Provider where
  | shelf (texts : Shelf)
  /-- The files of a tree; relative paths start from the base, if there is one. -/
  | files (tree : Files.Tree) (base : Option String)

namespace Provider

/-- The path that an address names. -/
def pathOf (base : Option String) (address : String) : String :=
  let path := ((Text.after? "file://".toList address.toList).map String.ofList).getD address
  match base with
  | none => path
  | some base => Files.Path.join base path

/-- The lines at an address. -/
def lines (provider : Provider) (address : String) : Except FileFault (List String) :=
  match provider with
  | .shelf texts =>
    match texts.lines? address with
    | none => .error (.unknownText address)
    | some ls => .ok ls
  | .files tree base =>
    let path := pathOf base address
    match tree.readText path with
    | .error e => .error (.unreadableMap path e)
    | .ok content => .ok (Text.lines content)

/-- Reads the map at an address for a script. -/
def loadMap (provider : Provider) (address script : String) : Told (Except Fault LineMap) := do
  tell (.loadingMap address)
  match provider.lines address with
  | .error cause => return .error (.file cause)
  | .ok ls =>
    match LineMap.read script ls with
    | .error fault =>
      tell (.mapRefused address fault)
      return .error fault
    | .ok map =>
      tell (.mapRead address map.lineCount map.definitionCount)
      return .ok map

end Provider

end LineAtlas
