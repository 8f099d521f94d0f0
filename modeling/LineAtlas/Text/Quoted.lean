import LineAtlas.Text.Table.Basic
import LineAtlas.Text.Table.Extending
import LineAtlas.Text.Table.Unprintable

/-!
# Quoted text

Messages show a path or a text between double quotes, so that each of its characters can be told from the others:
quotes and backslashes are escaped, tab, line feed, carriage return and NUL have short names, and other characters
that are not printed by themselves, or that would be drawn over the one before, stand as `\u` and their code in braces.
-/

namespace LineAtlas.Text

/-- Whether a character is shown by its code. -/
def isHidden (c : Char) : Bool :=
  0x7F ≤ c.toNat && (Table.within Table.unprintable c || Table.within Table.extending c) || c.toNat < 0x20

/-- A character between quotes. -/
def quoteChar (c : Char) : List Char :=
  if c = '"' then ['\\', '"']
  else if c = '\\' then ['\\', '\\']
  else if c = '\t' then ['\\', 't']
  else if c = '\n' then ['\\', 'n']
  else if c = '\r' then ['\\', 'r']
  else if c.toNat = 0 then ['\\', '0']
  else if isHidden c then ['\\', 'u', '\x7b'] ++ Nat.toDigits 16 c.toNat ++ ['\x7d']
  else [c]

/-- A text between quotes. -/
def quoted (s : String) : String :=
  String.ofList ('"' :: s.toList.flatMap quoteChar ++ ['"'])

end LineAtlas.Text
