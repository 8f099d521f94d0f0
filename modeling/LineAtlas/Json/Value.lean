import LineAtlas.Binary64.Basic

/-!
# JSON values

A number is kept as it was written: a whole number stays an integer, and one with a fraction or an exponent, or too
large for 64 bits, is a signed binary64 magnitude.  The fields of an object that was read are sorted by name and each
name occurs once; an object that is only printed keeps the order in which its fields are listed.
-/

namespace LineAtlas.Json

open Binary64 (Magnitude)

inductive Value where
  | null
  | bool (b : Bool)
  | integer (n : Int)
  | real (negative : Bool) (size : Magnitude)
  | string (s : String)
  | array (items : List Value)
  | object (fields : List (String × Value))
  deriving Repr, Inhabited

/-- Sets a field in fields sorted by name; a field of the same name is replaced. -/
def setField (name : String) (v : Value) : List (String × Value) → List (String × Value)
  | [] => [(name, v)]
  | (other, w) :: rest =>
    if name < other then (name, v) :: (other, w) :: rest
    else if name = other then (name, v) :: rest
    else (other, w) :: setField name v rest

namespace Value

/-- The field of an object with a given name. -/
def field? (name : String) : Value → Option Value
  | object fields => fields.lookup name
  | _ => none

/-- The text of a string. -/
def string? : Value → Option String
  | string s => some s
  | _ => none

/-- A whole number from zero up. -/
def natural? : Value → Option Nat
  | integer n => if 0 ≤ n then some n.toNat else none
  | _ => none

/-- A text, or null where there is none. -/
def ofOption (s : Option String) : Value := (s.map string).getD null

/-- A number, or null where there is none. -/
def ofNat? (n : Option Nat) : Value := (n.map fun k => integer k).getD null

/-- The values that stand for "absent" where a text is expected: null, false, zero and the empty text. -/
def isFalsy : Value → Bool
  | null => true
  | bool b => !b
  | integer n => n == 0
  | real _ size => size.mantissa == 0
  | string s => s == ""
  | _ => false

end Value

end LineAtlas.Json
