/-!
# Failures of the file system

The ways in which opening, reading or making a file fails, with the text that the system gives for each.
-/

namespace LineAtlas.Files

inductive Error where
  | noEntry
  | entryExists
  | notDirectory
  | isDirectory
  | nameTooLong
  /-- The path holds a NUL character. -/
  | nulInPath
  /-- The content is not UTF-8. -/
  | notText
  deriving DecidableEq, Repr

def Error.message : Error → String
  | noEntry => "No such file or directory (os error 2)"
  | entryExists => "File exists (os error 17)"
  | notDirectory => "Not a directory (os error 20)"
  | isDirectory => "Is a directory (os error 21)"
  | nameTooLong => "File name too long (os error 36)"
  | nulInPath => "file name contained an unexpected NUL byte"
  | notText => "stream did not contain valid UTF-8"

end LineAtlas.Files
