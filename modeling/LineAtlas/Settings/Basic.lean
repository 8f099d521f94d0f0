/-!
# Settings

Settings say in which form answers are given and hold, for each generated script, a block with the path of its line map
and the root of its source files.  A block is found by the address of its script; where several have one address the
first counts.  `get?` is the view of the blocks, and `set` changes it at one address and key.
-/

namespace LineAtlas

/-- What a block holds. -/
inductive Settings.Key where
  | lineMap
  | root
  deriving DecidableEq, Repr

/-- What is stored for one script. -/
structure Settings.Block where
  script : String
  lineMap : Option String
  root : Option String
  deriving DecidableEq, Repr

structure Settings where
  /-- The form in which answers are given. -/
  format : Option String
  blocks : List Settings.Block
  deriving DecidableEq, Repr

namespace Settings

/-- A block that holds nothing. -/
def Block.empty (script : String) : Block := ⟨script, none, none⟩

/-- What a block holds under a key. -/
def Block.get? (b : Block) : Key → Option String
  | .lineMap => b.lineMap
  | .root => b.root

/-- The block with another value under a key. -/
def Block.set (b : Block) (key : Key) (value : Option String) : Block :=
  match key with
  | .lineMap => { b with lineMap := value }
  | .root => { b with root := value }

/-- Settings that say nothing. -/
def empty : Settings := ⟨none, []⟩

/-- The block of a script. -/
def block? (s : Settings) (script : String) : Option Block := s.blocks.find? (·.script = script)

/-- What is stored for a script under a key. -/
def get? (s : Settings) (script : String) (key : Key) : Option String := (s.block? script).bind (·.get? key)

/-- The settings with a block for a script, an empty one at the end where there was none. -/
def withBlock (s : Settings) (script : String) : Settings :=
  if (s.block? script).isSome then s else { s with blocks := s.blocks ++ [.empty script] }

/-- Blocks of which the first for a script has changed. -/
def changeFirst (script : String) (change : Block → Block) : List Block → List Block
  | [] => []
  | b :: rest => if b.script = script then change b :: rest else b :: changeFirst script change rest

/-- Stores a value for a script, or removes it, in a block that is made where there is none; says also whether the value
differs from the one before. -/
def set (s : Settings) (script : String) (key : Key) (value : Option String) : Bool × Settings :=
  let made := s.withBlock script
  (s.get? script key ≠ value, { made with blocks := changeFirst script (·.set key value) made.blocks })

/-- Whether answers are given as JSON. -/
def isJson (s : Settings) : Bool := s.format = some "json"

end Settings

end LineAtlas
