/-!
# Words of a command

A command is cut into words at blanks, tabs and line feeds.  Single quotes keep everything up to the next single quote;
inside double quotes a backslash keeps a dollar sign, a backquote, a double quote or a backslash and removes a line
feed, and stands for itself otherwise; outside quotes it keeps the next character and removes a line feed.  A number
sign where a word could begin starts a comment up to the end of its line.  Quotes that are not closed, and a backslash
at the end, leave the command without words.
-/

namespace LineAtlas.Words

/-- Where in a command a character stands. -/
inductive Mode where
  | gap
  | comment
  | bare
  | bareEscape
  | single
  | double
  | doubleEscape
  deriving DecidableEq, Repr

/-- The characters that end a word. -/
def isSeparator (c : Char) : Bool := c = ' ' || c = '\t' || c = '\n'

/-- The characters that a backslash inside double quotes keeps. -/
def isKept (c : Char) : Bool := c = '$' || c = '\x60' || c = '"' || c = '\\'

/-- The mode after an unquoted character of a word, and the word in reverse. -/
def inWord (word : List Char) (c : Char) : Mode × List Char :=
  if c = '"' then (.double, word)
  else if c = '\'' then (.single, word)
  else if c = '\\' then (.bareEscape, word)
  else (.bare, c :: word)

/-- The words of the rest of a command; the open word is given in reverse. -/
def scan : Mode → List Char → List Char → Option (List (List Char))
  | .gap, _, [] => some []
  | .comment, _, [] => some []
  | .bare, word, [] => some [word.reverse]
  | _, _, [] => none
  | .gap, _, c :: rest =>
    if isSeparator c then scan .gap [] rest
    else if c = '#' then scan .comment [] rest
    else scan (inWord [] c).1 (inWord [] c).2 rest
  | .comment, _, c :: rest => scan (if c = '\n' then .gap else .comment) [] rest
  | .bare, word, c :: rest =>
    if isSeparator c then (scan .gap [] rest).map (word.reverse :: ·)
    else scan (inWord word c).1 (inWord word c).2 rest
  | .bareEscape, word, c :: rest => scan .bare (if c = '\n' then word else c :: word) rest
  | .single, word, c :: rest => if c = '\'' then scan .bare word rest else scan .single (c :: word) rest
  | .double, word, c :: rest =>
    if c = '"' then scan .bare word rest
    else if c = '\\' then scan .doubleEscape word rest
    else scan .double (c :: word) rest
  | .doubleEscape, word, c :: rest =>
    if isKept c then scan .double (c :: word) rest
    else if c = '\n' then scan .double word rest
    else scan .double (c :: '\\' :: word) rest

/-- The words of a command. -/
def split (s : String) : Option (List String) := (scan .gap [] s.toList).map (·.map String.ofList)

@[simp] theorem split_empty : split "" = some [] := by
  simp [split, scan]

end LineAtlas.Words
