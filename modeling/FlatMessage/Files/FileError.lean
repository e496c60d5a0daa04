/-!
# Failures of file operations

Why a path does not lead where an operation needs it to, with the report and the
number that the operating system gives the failure.
-/

namespace FlatMessage.Files

/-- Why a file operation failed. -/
inductive FileError
  | notFound
  | alreadyExists
  | notDirectory
  | isDirectory
  | invalidArgument
  | nameTooLong
  | notEmpty
  /-- The content of a file is not UTF-8. -/
  | notText
  /-- A path holds the character with code zero. -/
  | zeroInPath
  /-- Any other failure, with its report. -/
  | other (report : String)
  deriving DecidableEq, Repr

/-- The report of a failure. -/
def FileError.message : FileError → String
  | notFound => "No such file or directory (os error 2)"
  | alreadyExists => "File exists (os error 17)"
  | notDirectory => "Not a directory (os error 20)"
  | isDirectory => "Is a directory (os error 21)"
  | invalidArgument => "Invalid argument (os error 22)"
  | nameTooLong => "File name too long (os error 36)"
  | notEmpty => "Directory not empty (os error 39)"
  | notText => "stream did not contain valid UTF-8"
  | zeroInPath => "file name contained an unexpected NUL byte"
  | other report => report

end FlatMessage.Files
