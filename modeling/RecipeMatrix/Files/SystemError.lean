/-!
# System errors

The refusals with which a file system answers, each with its wording.
-/

namespace RecipeMatrix

/-- What an error of unknown origin is about, as far as a message depends on it. -/
inductive ReportedKind
  | missing
  | forbidden
  | other
  deriving DecidableEq, Repr

/-- Why a file system refuses an operation. -/
inductive SystemError
  /-- A name on the way, or the last one, does not exist. -/
  | notFound
  /-- The entry is in use as a place to stand on and cannot be replaced. -/
  | busy
  /-- The name is taken. -/
  | alreadyExists
  /-- A name that is walked through, or ends in a slash, is no directory. -/
  | notDirectory
  /-- The operation is for files only. -/
  | isDirectory
  /-- A name has more than 255 bytes, or the path more than 4095. -/
  | nameTooLong
  /-- A null character stands in the path. -/
  | nullInName
  /-- A file that should hold text does not. -/
  | notText
  /-- A chain of missing directories has no end. -/
  | noStartingPoint
  /-- An error reported with a text of its own. -/
  | reported (kind : ReportedKind) (text : String)
  deriving DecidableEq, Repr

namespace SystemError

/-- The wording of a refusal. -/
def message : SystemError → String
  | notFound => "No such file or directory (os error 2)"
  | busy => "Device or resource busy (os error 16)"
  | alreadyExists => "File exists (os error 17)"
  | notDirectory => "Not a directory (os error 20)"
  | isDirectory => "Is a directory (os error 21)"
  | nameTooLong => "File name too long (os error 36)"
  | nullInName => "file name contained an unexpected NUL byte"
  | notText => "stream did not contain valid UTF-8"
  | noStartingPoint => "failed to create whole tree"
  | reported _ text => text

/-- A refusal for want of permission. -/
def isForbidden : SystemError → Bool
  | reported .forbidden _ => true
  | _ => false

end SystemError

end RecipeMatrix
