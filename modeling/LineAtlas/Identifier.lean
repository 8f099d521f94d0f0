import LineAtlas.Json.Value
import LineAtlas.Text.Lines
import LineAtlas.Text.Lowercase

/-!
# Readable identifiers

A compiler marks the identifiers that it renames: setters, properties, globals and aliases have a word in front, and
the parts of other names are joined by dollar signs.  `Identifier.convert` gives the name that a reader expects, with
the style in which it is to be shown.
-/

namespace LineAtlas

/-- How a readable name is shown. -/
inductive Style where
  | plain
  | atom
  | string
  | keyword
  deriving DecidableEq, Repr

/-- The style as it is printed. -/
def Style.text : Style → String
  | plain => "name"
  | atom => "atom"
  | string => "string"
  | keyword => "keyword"

/-- The style as it is called in JSON. -/
def Style.key : Style → String
  | plain => "default"
  | atom => "atom"
  | string => "string"
  | keyword => "keyword"

/-- A readable name. -/
structure ReadableName where
  value : String
  style : Style
  deriving DecidableEq, Repr

/-- A readable name as text. -/
def ReadableName.text (n : ReadableName) : String := n.value ++ " [" ++ n.style.text ++ "]"

/-- A readable name as JSON. -/
def ReadableName.toJson (n : ReadableName) : Json.Value :=
  .object [("value", .string n.value), ("style", .string n.style.key)]

namespace Identifier

/-- The marker of the prototype that is being extracted. -/
def prototypeMarker : String := "Compilerompiler_extractPrototype"

/-- What follows a word at the front of an identifier. -/
def after? (word : String) (value : String) : Option String :=
  (Text.after? word.toList value.toList).map String.ofList

/-- Puts one point in the place of every run of dollar signs. -/
def joinParts : List Char → List Char
  | [] => []
  | c :: rest =>
    if c = '$' then
      match rest with
      | '$' :: _ => joinParts rest
      | _ => '.' :: joinParts rest
    else c :: joinParts rest

/-- The name of a property: bare as the key of an object, between quotes elsewhere. -/
def property (name : String) (asKey : Bool) : ReadableName :=
  if asKey then ⟨name, .plain⟩ else ⟨"'" ++ name ++ "'", .string⟩

/-- An alias is written in upper case. -/
def lowered (name : String) : ReadableName :=
  let lower := Text.lowercase name
  ⟨lower, if lower = "throw" then .keyword else .atom⟩

/-- The readable form of an identifier; `asKey` says that it is the key of an object. -/
def convert (value : String) (asKey : Bool) : ReadableName :=
  if let some name := after? "SETPROP_" value then ⟨"(set " ++ name ++ ")", .atom⟩
  else if let some name := after? "$$PROP_" value then property name asKey
  else if let some name := after? "GLOBAL_" value then ⟨name, .plain⟩
  else if let some name := after? "$$ALIAS_" value then lowered name
  else if value = prototypeMarker then ⟨"(current prototype)", .atom⟩
  else ⟨String.ofList (joinParts value.toList), .plain⟩

end Identifier

end LineAtlas
