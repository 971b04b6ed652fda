import FighterCheck.Files.Fault
import FighterCheck.Markup.Fault
import FighterCheck.Text.Quoted

/-!
# What can be wrong with a schema

The faults of the directory of schema documents and of the documents in it, and their wording.
-/

namespace FighterCheck.Schema

/-- Why a schema cannot be used. -/
inductive Error where
  /-- the directory is missing -/
  | directoryNotFound (path : String)
  /-- a document is missing -/
  | fileNotFound (path : String)
  /-- a document is there but cannot be read -/
  | unreadable (path : String) (fault : Files.Fault)
  /-- a document is ill-formed -/
  | illFormed (path : String) (fault : Markup.Fault)
  /-- a document lacks the element that holds its rules -/
  | missingElement (path : String) (element : String)
  /-- an element lacks an attribute -/
  | missingAttribute (path : String) (element : String) (attr : String)
  /-- a value is none of those allowed -/
  | invalidValue (path : String) (what : String) (value : String)
  deriving Repr, DecidableEq

/-- The wording of an error. -/
def Error.message : Error → String
  | .directoryNotFound path => "resource directory not found: " ++ path
  | .fileNotFound path => "schema file not found: " ++ path
  | .unreadable path fault => "failed to read file " ++ path ++ ": " ++ fault.message
  | .illFormed path fault => "failed to parse XML " ++ path ++ ": " ++ fault.message
  | .missingElement path element => path ++ ": missing <" ++ element ++ "> element"
  | .missingAttribute path element attr =>
    path ++ ": <" ++ element ++ "> is missing attribute '" ++ attr ++ "'"
  | .invalidValue path what value =>
    path ++ ": invalid value " ++ Text.quote value ++ " for " ++ what

/-- The error for a document that could not be read: one that is not there is told apart. -/
def Error.ofReadFault (path : String) : Files.Fault → Error
  | .notFound => .fileNotFound path
  | fault => .unreadable path fault

end FighterCheck.Schema
