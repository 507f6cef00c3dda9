/-!
# Errors of the system

What can go wrong when files and directories are used.
-/

namespace KnxExport

/-- An error that the system reports. -/
inductive SystemError where
  | noEntry
  | noMemory
  | exists
  | notDirectory
  | isDirectory
  | noSpace
  | nameTooLong
  /-- Any other error, in the system's words. -/
  | other (text : String)
  deriving DecidableEq, Repr

/-- The error in words. -/
def SystemError.message : SystemError → String
  | .noEntry => "No such file or directory (os error 2)"
  | .noMemory => "Cannot allocate memory (os error 12)"
  | .exists => "File exists (os error 17)"
  | .notDirectory => "Not a directory (os error 20)"
  | .isDirectory => "Is a directory (os error 21)"
  | .noSpace => "No space left on device (os error 28)"
  | .nameTooLong => "File name too long (os error 36)"
  | .other text => text

end KnxExport
