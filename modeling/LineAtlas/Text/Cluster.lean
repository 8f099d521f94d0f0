import LineAtlas.Text.Table.Basic
import LineAtlas.Text.Table.Extending
import LineAtlas.Text.Table.Pictographic
import LineAtlas.Text.Table.Spacing
import LineAtlas.Text.Table.Unprintable

/-!
# Grapheme clusters

What a reader takes for one character may be several code points: a letter with its marks, a syllable of Hangul, a
flag, pictures tied together by joiners.  `clusters` cuts a text at the boundaries between extended grapheme clusters.
-/

namespace LineAtlas.Text

/-- The classes of characters on which cluster boundaries depend. -/
inductive ClusterClass where
  | carriageReturn | lineFeed | control | extend | joiner | spacing | prepend
  | regional | pictographic | leading | vowel | trailing | openSyllable | closedSyllable | other
  deriving DecidableEq, Repr

/-- Characters that join the one after them. -/
def isPrepended (n : Nat) : Bool :=
  (0x600 ≤ n && n ≤ 0x605) || n == 0x6DD || n == 0x70F || n == 0x890 || n == 0x891 || n == 0x8E2 || n == 0xD4E ||
    n == 0x110BD || n == 0x110CD || n == 0x111C2 || n == 0x111C3 || n == 0x1193F || n == 0x11941 || n == 0x11A3A ||
    (0x11A84 ≤ n && n ≤ 0x11A89) || n == 0x11D46 || n == 0x11F02

/-- Separators and format characters, which stand alone.  Blanks and characters of private use do not. -/
def isSeparating (c : Char) : Bool :=
  let n := c.toNat
  n < 0xA0 && Table.within Table.unprintable c || n == 0xAD || n == 0x61C || n == 0x180E || n == 0x200B ||
    n == 0x200E || n == 0x200F || n == 0x2028 || n == 0x2029 || (0x202A ≤ n && n ≤ 0x202E) ||
    (0x2060 ≤ n && n ≤ 0x206F) || n == 0xFEFF || (0xFFF0 ≤ n && n ≤ 0xFFFB) || (0x13430 ≤ n && n ≤ 0x1343F) ||
    (0x1BCA0 ≤ n && n ≤ 0x1BCA3) || (0x1D173 ≤ n && n ≤ 0x1D17A) || (0xE0000 ≤ n && n ≤ 0xE0FFF)

/-- The class of a character. -/
def clusterClass (c : Char) : ClusterClass :=
  let n := c.toNat
  if n == 0x0D then .carriageReturn
  else if n == 0x0A then .lineFeed
  else if n < 0x20 || n == 0x7F then .control
  else if n < 0x7F then .other
  else if n == 0x200D then .joiner
  else if (0x1F3FB ≤ n && n ≤ 0x1F3FF) || Table.within Table.extending c then .extend
  else if isPrepended n then .prepend
  else if Table.within Table.spacing c then .spacing
  else if 0x1F1E6 ≤ n && n ≤ 0x1F1FF then .regional
  else if Table.within Table.pictographic c then .pictographic
  else if (0x1100 ≤ n && n ≤ 0x115F) || (0xA960 ≤ n && n ≤ 0xA97C) then .leading
  else if (0x1160 ≤ n && n ≤ 0x11A7) || (0xD7B0 ≤ n && n ≤ 0xD7C6) then .vowel
  else if (0x11A8 ≤ n && n ≤ 0x11FF) || (0xD7CB ≤ n && n ≤ 0xD7FB) then .trailing
  else if 0xAC00 ≤ n && n ≤ 0xD7A3 then if (n - 0xAC00) % 28 == 0 then .openSyllable else .closedSyllable
  else if isSeparating c then .control
  else .other

/-- What the text of the current cluster says about a boundary after it. -/
structure ClusterState where
  /-- The class of its last character. -/
  last : ClusterClass
  /-- Whether it is a pictograph and extending characters, then a joiner. -/
  tied : Bool
  /-- Whether it is a pictograph and extending characters. -/
  picture : Bool
  /-- Whether an odd number of regional indicators end it. -/
  oddRegional : Bool
  deriving DecidableEq, Repr

/-- The state of a cluster of one character. -/
def ClusterState.start (k : ClusterClass) : ClusterState :=
  ⟨k, false, k = .pictographic, k = .regional⟩

/-- Whether no boundary lies before a character of class `k`. -/
def ClusterState.joins (s : ClusterState) (k : ClusterClass) : Bool :=
  match s.last, k with
  | .carriageReturn, .lineFeed => true
  | .carriageReturn, _ | .lineFeed, _ | .control, _ => false
  | _, .carriageReturn | _, .lineFeed | _, .control => false
  | .leading, .leading | .leading, .vowel | .leading, .openSyllable | .leading, .closedSyllable => true
  | .openSyllable, .vowel | .openSyllable, .trailing | .vowel, .vowel | .vowel, .trailing => true
  | .closedSyllable, .trailing | .trailing, .trailing => true
  | _, .extend | _, .joiner | _, .spacing => true
  | .prepend, _ => true
  | .joiner, .pictographic => s.tied
  | .regional, .regional => s.oddRegional
  | _, _ => false

/-- The state of a cluster that a character of class `k` has joined. -/
def ClusterState.add (s : ClusterState) (k : ClusterClass) : ClusterState where
  last := k
  tied := k = .joiner && s.picture
  picture := k = .pictographic || (k = .extend && s.picture)
  oddRegional := k = .regional && !s.oddRegional

/-- The clusters of a text after the open one, whose characters are given in reverse. -/
def clustersFrom (s : ClusterState) (opened : List Char) : List Char → List (List Char)
  | [] => [opened.reverse]
  | c :: rest =>
    let k := clusterClass c
    if s.joins k then clustersFrom (s.add k) (c :: opened) rest
    else opened.reverse :: clustersFrom (.start k) [c] rest

/-- The grapheme clusters of a text. -/
def clusters : List Char → List (List Char)
  | [] => []
  | c :: rest => clustersFrom (.start (clusterClass c)) [c] rest

end LineAtlas.Text
