import FighterCheck.Files.Fault
import FighterCheck.Ini.Reader
import FighterCheck.Text.Integer
import FighterCheck.Text.Quoted

/-!
# What can be wrong with a section file

The faults of section files and of the values in them, and their wording.
-/

namespace FighterCheck.Ini

/-- Why a section file or a value in it cannot be used. -/
inductive Error where
  /-- a header of the text that goes by the name `origin` is not closed -/
  | malformedHeader (origin : String) (header : UnclosedHeader)
  /-- the value should be in quotes -/
  | malformedLiteral (value : String)
  /-- the file is missing -/
  | fileNotFound (path : String)
  /-- the file is there but cannot be read -/
  | unreadable (path : String) (fault : Files.Fault)
  /-- the file cannot be written -/
  | unwritable (path : String) (fault : Files.Fault)
  deriving Repr, DecidableEq

/-- The wording of an error. -/
def Error.message : Error → String
  | .malformedHeader origin ⟨line, text⟩ =>
    origin ++ ":" ++ Text.showNat line ++ ": malformed section header starting with '[" ++ text ++
      "'"
  | .malformedLiteral value =>
    "value " ++ Text.quote value ++ " is not a well-formed quoted string"
  | .fileNotFound path => "file not found: " ++ path
  | .unreadable path fault => "failed to read " ++ path ++ ": " ++ fault.message
  | .unwritable path fault => "failed to write " ++ path ++ ": " ++ fault.message

/-- The error for a file that could not be read: a file that is not there is told apart. -/
def Error.ofReadFault (path : String) : Files.Fault → Error
  | .notFound => .fileNotFound path
  | fault => .unreadable path fault

end FighterCheck.Ini
