/-!
# Why a file cannot be used

The ways in which opening, reading or writing a file can fail, and their wording.
-/

namespace FighterCheck.Files

/-- Why the system refuses to open a file that is there. -/
inductive Refusal where
  /-- it is not permitted -/
  | denied
  /-- the medium fails -/
  | broken
  deriving Repr, DecidableEq

/-- Why a file could not be read or written. -/
inductive Fault where
  /-- nothing has that name -/
  | notFound
  /-- a name before the end of the path is that of a file -/
  | notDirectory
  /-- the path names a directory -/
  | isDirectory
  /-- the path contains the character NUL -/
  | nulInPath
  /-- the path, or a name in it, is longer than the system allows -/
  | nameTooLong
  /-- the system refuses to open the file -/
  | refused (reason : Refusal)
  /-- the file is not text in UTF-8 -/
  | notUtf8
  deriving Repr, DecidableEq

/-- The wording of a refusal. -/
def Refusal.message : Refusal → String
  | .denied => "Permission denied (os error 13)"
  | .broken => "Input/output error (os error 5)"

/-- The wording of a fault. -/
def Fault.message : Fault → String
  | .notFound => "No such file or directory (os error 2)"
  | .notDirectory => "Not a directory (os error 20)"
  | .isDirectory => "Is a directory (os error 21)"
  | .nulInPath => "file name contained an unexpected NUL byte"
  | .nameTooLong => "File name too long (os error 36)"
  | .refused reason => reason.message
  | .notUtf8 => "stream did not contain valid UTF-8"

end FighterCheck.Files
