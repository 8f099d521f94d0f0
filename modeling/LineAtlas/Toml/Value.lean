/-!
# TOML values

A value is a text, another scalar, an array or a table; of the other scalars only the kind is kept, since nothing is
ever read from them.  A table remembers how it came about, which decides what a later line of the file may add to it.
-/

namespace LineAtlas.Toml

/-- The scalars that are not texts. -/
inductive Kind where
  | integer
  | real
  | boolean
  | dateTime
  deriving DecidableEq, Repr

/-- How a table came about. -/
inductive Origin where
  /-- Written between braces: complete. -/
  | braces
  /-- Written under a header of its own. -/
  | header
  /-- Named on the way to another table by a header. -/
  | implied
  /-- Named on the way to a value by a key with points. -/
  | dotted
  deriving DecidableEq, Repr

inductive Value where
  | text (s : String)
  | scalar (kind : Kind)
  | array (items : List Value)
  | table (origin : Origin) (fields : List (String × Value))
  /-- The tables under the headers in double brackets that have one name. -/
  | tables (elements : List (List (String × Value)))
  deriving Repr

/-- The named values of a table. -/
abbrev Fields := List (String × Value)

/-- The fields with another value under a name that they have. -/
def Fields.replace (fields : Fields) (name : String) (v : Value) : Fields :=
  fields.map fun field => if field.1 = name then (name, v) else field

/-- A reader takes its value from the front of a text and gives the rest. -/
abbrev Reader (α : Type) := List Char → Option (α × List Char)

end LineAtlas.Toml
