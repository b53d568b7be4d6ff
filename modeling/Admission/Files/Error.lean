/-!
Why a file cannot be read, written or removed, in the words of the operating system.
-/

namespace Admission

/-- Errors of operations on files. -/
inductive FileError where
  | missing
  | present
  | notDirectory
  | isDirectory
  | nameTooLong
  | nulInName
  | notText
  | other (reason : String)
deriving DecidableEq, Repr

/-- The error in words. -/
def FileError.message : FileError → String
  | missing => "No such file or directory (os error 2)"
  | present => "File exists (os error 17)"
  | notDirectory => "Not a directory (os error 20)"
  | isDirectory => "Is a directory (os error 21)"
  | nameTooLong => "File name too long (os error 36)"
  | nulInName => "file name contained an unexpected NUL byte"
  | notText => "stream did not contain valid UTF-8"
  | other reason => reason

end Admission
