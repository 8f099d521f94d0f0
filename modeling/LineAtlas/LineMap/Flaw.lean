import LineAtlas.CharMap.Literal
import LineAtlas.Json.Reader

/-!
# What is wrong with a line map

The parts of a line-map file, the markers before them, and the ways in which a text can fail to be such a file.  Lines
are counted from one.
-/

namespace LineAtlas.LineMap

/-- The parts of a line-map file. -/
inductive Part where
  | charMaps
  | fileLists
  | definitions
  deriving DecidableEq, Repr

/-- The line before a part; an object follows the first marker on its line. -/
def Part.marker : Part → String
  | charMaps => "/** Begin line maps. **/"
  | fileLists => "/** Begin file information. **/"
  | definitions => "/** Begin mapping definitions. **/"

/-- What messages call a part. -/
def Part.name : Part → String
  | charMaps => "line maps"
  | fileLists => "file information"
  | definitions => "mapping definitions"

/-- Why a row of a part cannot be read. -/
inductive RowFault where
  | charMap (fault : CharMap.Fault)
  | fileList (fault : Json.Fault)
  deriving DecidableEq, Repr

def RowFault.message : RowFault → String
  | charMap fault => fault.message
  | fileList fault => fault.message

/-- Why a text is not a line map. -/
inductive Flaw where
  | tooShort (found : Nat)
  | noHeader
  | noPayload
  | badPayload (fault : Json.Fault)
  | noCount
  | badCount (v : Json.Value)
  | noRoom (count room : Nat)
  /-- The file ended where a row or a marker should stand. -/
  | ended (expected : String) (line : Nat)
  | comment (line : Nat) (part : Part)
  | malformed (line : Nat) (part : Part) (fault : RowFault)
  | wrongMarker (part : Part) (line : Nat) (found : String)
  deriving Repr

/-- The fewest lines a file can have. -/
def leastLines : Nat := 4

def Flaw.message : Flaw → String
  | tooShort found => "expected at least " ++ Numeral.ofNat leastLines ++ " lines, found " ++ Numeral.ofNat found
  | noHeader => "missing '" ++ Part.charMaps.marker ++ "' header"
  | noPayload => "header carries no object payload"
  | badPayload fault => "undecodable header payload: " ++ fault.message
  | noCount => "header payload has no 'count'"
  | badCount v => "'count' must be a non-negative integer, got " ++ v.compact
  | noRoom count room =>
    "header declares " ++ Numeral.ofNat count ++ " generated lines but the file only has room for " ++
      Numeral.ofNat room
  | ended expected line => "unexpected end of file in " ++ expected ++ " (line " ++ Numeral.ofNat line ++ ")"
  | comment line part => "unexpected comment on line " ++ Numeral.ofNat line ++ " in " ++ part.name
  | malformed line part fault =>
    "malformed line " ++ Numeral.ofNat line ++ " in " ++ part.name ++ ": " ++ fault.message
  | wrongMarker part line found =>
    "expected '" ++ part.marker ++ "' on line " ++ Numeral.ofNat line ++ ", found '" ++ found ++ "'"

end LineAtlas.LineMap
