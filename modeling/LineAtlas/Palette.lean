import LineAtlas.Text.Numeral

/-!
# Coloured messages

Messages have a tone, which a terminal shows as a colour.  Where colours are off a message is printed as it is.
-/

namespace LineAtlas

inductive Tone where
  | info
  | success
  | warning
  | error
  deriving DecidableEq, Repr

/-- The number of a tone's colour in the palette of a terminal. -/
def Tone.colour : Tone → Nat
  | info => 12
  | success => 10
  | warning => 11
  | error => 9

/-- A message in the colour of a tone, or plain. -/
def Tone.paint (tone : Tone) (coloured : Bool) (message : String) : String :=
  if coloured then "\x1b[38;5;" ++ Numeral.ofNat tone.colour ++ "m" ++ message ++ "\x1b[39m" else message

end LineAtlas
