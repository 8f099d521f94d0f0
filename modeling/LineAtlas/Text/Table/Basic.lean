/-!
# Sets of characters

A set of characters is given by the codes at which it begins and ends, in ascending order: a character belongs to it
when an odd number of them are at or below its code.
-/

namespace LineAtlas.Text.Table

/-- Whether a character belongs to the set with the given boundaries. -/
def within (boundaries : List Nat) (c : Char) : Bool :=
  (boundaries.takeWhile (· ≤ c.toNat)).length % 2 == 1

end LineAtlas.Text.Table
