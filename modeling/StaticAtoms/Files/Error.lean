/-!
# Failures of file operations

`FileError` lists the ways in which an operation on a file can fail; `FileError.message` is the text
that the system gives.
-/

namespace StaticAtoms

/-- Why an operation on a file failed. -/
inductive FileError where
  | notFound
  | refused
  | occupied
  | notDirectory
  | isDirectory
  | nameTooLong
  | nulInPath
  | noSpace
  | notText
  | tooLong
  | other (message : String)
deriving DecidableEq

namespace FileError

/-- The text of a failure. -/
def message : FileError → String
  | notFound => "No such file or directory (os error 2)"
  | refused => "Permission denied (os error 13)"
  | occupied => "File exists (os error 17)"
  | notDirectory => "Not a directory (os error 20)"
  | isDirectory => "Is a directory (os error 21)"
  | nameTooLong => "File name too long (os error 36)"
  | nulInPath => "file name contained an unexpected NUL byte"
  | noSpace => "No space left on device (os error 28)"
  | notText => "stream did not contain valid UTF-8"
  | tooLong => "string too long for cache"
  | other message => message

end FileError

end StaticAtoms
