/-!
# Console output

A program prints texts to two streams, one for answers and one for complaints.
-/

namespace LineAtlas

/-- A text for one of the two streams. -/
inductive Printed where
  | answer (text : String)
  | complaint (text : String)
  deriving DecidableEq, Repr

namespace Printed

/-- A line for the stream of answers. -/
def line (text : String) : Printed := .answer (text ++ "\n")

/-- A line for the stream of complaints. -/
def complaintLine (text : String) : Printed := .complaint (text ++ "\n")

/-- Everything printed to the stream of answers. -/
def answers (printed : List Printed) : String :=
  String.join (printed.filterMap fun
    | answer text => some text
    | complaint _ => none)

/-- Everything printed to the stream of complaints. -/
def complaints (printed : List Printed) : String :=
  String.join (printed.filterMap fun
    | answer _ => none
    | complaint text => some text)

end Printed

end LineAtlas
