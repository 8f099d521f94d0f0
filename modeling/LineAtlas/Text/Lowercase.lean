import LineAtlas.Text.Table.Basic
import LineAtlas.Text.Table.CaseIgnorable
import LineAtlas.Text.Table.Cased
import LineAtlas.Text.Table.Lowering

/-!
# Lower case

Full lower-casing by the default case conversion of Unicode.  Two characters need more than a table of single
characters: the dotted capital I keeps its dot as a mark of its own, and a capital sigma at the end of a word becomes
the final small sigma.
-/

namespace LineAtlas.Text

/-- The lower-case form of a character in a run. -/
def Table.LoweringRun.lower? (run : Table.LoweringRun) (c : Char) : Option Char :=
  if run.first ≤ c.toNat && c.toNat ≤ run.last && (c.toNat - run.first) % run.stride == 0 then
    some (Char.ofNat ((c.toNat : Int) + run.shift).toNat)
  else none

/-- The lower-case form of a single character; most characters are their own. -/
def lowerChar (c : Char) : Char :=
  (Table.lowering.findSome? (·.lower? c)).getD c

/-- Whether the first character that casing does not look past is a letter with case. -/
def meetsCased (cs : List Char) : Bool :=
  match cs.dropWhile (Table.within Table.caseIgnorable) with
  | [] => false
  | c :: _ => Table.within Table.cased c

/-- The lower-case form of a character between the reversed text before it and the text after it. -/
def lowerBetween (before : List Char) (c : Char) (after : List Char) : List Char :=
  if c = 'Σ' then if meetsCased before && !meetsCased after then ['ς'] else ['σ']
  else if c = 'İ' then ['i', '\u0307']
  else [lowerChar c]

/-- Lower-cases the rest of a text, of which the part before is given in reverse. -/
def lowerFrom (before : List Char) : List Char → List Char
  | [] => []
  | c :: after => lowerBetween before c after ++ lowerFrom (c :: before) after

/-- A text in lower case. -/
def lowercase (s : String) : String := String.ofList (lowerFrom [] s.toList)

end LineAtlas.Text
