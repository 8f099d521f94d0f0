import LineAtlas.Binary64.Literal
import LineAtlas.CharMap.Basic
import LineAtlas.Text.Blank
import LineAtlas.Text.Lines

/-!
# Character maps as array literals

A character map is written as its slots between square brackets, with commas between them and blanks anywhere around
them.  An empty slot, `null` and `undefined` say the same as the slot before; a negative number leaves the characters
unmapped; any other whole number names a mapping.  One comma after the last slot is passed over, so that a literal whose
last slot is written as nothing needs it.  A number may also be a decimal literal whose binary64 value is whole and at
most `2 ^ 53`.
-/

namespace LineAtlas

/-- What is wrong with the literal of a character map. -/
inductive CharMap.Fault where
  | notArray (literal : String)
  | badSlot (token : String)
  deriving DecidableEq, Repr

def CharMap.Fault.message : CharMap.Fault → String
  | notArray literal => "expected an array literal, got '" ++ literal ++ "'"
  | badSlot token => "invalid mapping id '" ++ token ++ "'"

namespace Slot

/-- The slot that a whole number stands for. -/
def ofInt (n : Int) : Slot := if n < 0 then unmapped else mapping n.toNat

/-- The largest magnitude up to which every whole number is a binary64 value. -/
def exactLimit : Nat := 9007199254740992

/-- The whole number that a decimal literal rounds to, if it rounds to one that is at most `exactLimit`. -/
def whole? (token : List Char) : Option Int := do
  let literal ← Binary64.literal? token
  let size ← literal.magnitude?
  let n ← size.toNat?
  if n ≤ exactLimit then some (if literal.negative then -(n : Int) else n) else none

/-- Reads a slot without blanks around it. -/
def read (token : List Char) : Except CharMap.Fault Slot :=
  if token = [] || token = "null".toList || token = "undefined".toList then .ok same
  else
    match (Numeral.signed? token).or (whole? token) with
    | some n => .ok (ofInt n)
    | none => .error (.badSlot (String.ofList token))

end Slot

namespace CharMap

/-- What stands between the brackets of an array literal. -/
def inside? (cs : List Char) : Option (List Char) :=
  match cs with
  | '[' :: rest => if rest.getLast? = some ']' then some rest.dropLast else none
  | _ => none

/-- The pieces between the commas, without a blank last piece after a comma. -/
def pieces (inner : List Char) : List (List Char) :=
  let all := (Text.splitAt ',' inner).map Text.trimChars
  if 1 < all.length && all.getLast? = some [] then all.dropLast else all

/-- Reads an array literal. -/
def read (literal : String) : Except Fault CharMap :=
  match inside? (Text.trimChars literal.toList) with
  | none => .error (.notArray literal)
  | some inner =>
    if (Text.trimChars inner).isEmpty then .ok empty
    else ((pieces inner).mapM Slot.read).map CharMap.mk

end CharMap

end LineAtlas
