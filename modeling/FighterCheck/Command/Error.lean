import FighterCheck.Character.Basic
import FighterCheck.Schema.Load

/-!
# Why a command fails

A command that fails says what it was about to do, then the cause, then the cause of that, with colons
between them.
-/

namespace FighterCheck

/-- What lies behind an error of the schema besides its own wording. -/
def Schema.Error.causes : Schema.Error → List String
  | .unreadable _ fault => [fault.message]
  | .illFormed _ fault => [fault.message]
  | _ => []

/-- What lies behind an error of a section file besides its own wording. -/
def Ini.Error.causes : Ini.Error → List String
  | .unreadable _ fault => [fault.message]
  | .unwritable _ fault => [fault.message]
  | _ => []

/-- What lies behind an error of a sprite file besides its own wording. -/
def Sprite.Error.causes : Sprite.Error → List String
  | .unreadable _ fault => [fault.message]
  | .header _ => []

/-- What lies behind an error of a character besides its own wording. -/
def Character.Error.causes : Character.Error → List String
  | .ini e => e.causes
  | .sprite e => e.causes
  | _ => []

namespace Command

/-- Why a command fails. -/
inductive Error where
  /-- the schema in a directory cannot be loaded -/
  | loadSchema (dir : String) (e : Schema.Error)
  /-- a definition cannot be resolved or checked -/
  | resolve (path : String) (e : Character.Error)
  /-- a sprite file cannot be read -/
  | readSprite (path : String) (e : Sprite.Error)
  /-- there is no controller of that name -/
  | unknownController (name : String)
  deriving Repr, DecidableEq

namespace Error

/-- What the command was about to do. -/
def context : Error → String
  | .loadSchema dir _ => "load schema from " ++ dir
  | .resolve path _ => "resolve " ++ path
  | .readSprite path _ => "read sprite header of " ++ path
  | .unknownController name => "unknown controller type: " ++ name

/-- The error and its causes, the outermost first. -/
def chain (e : Error) : List String :=
  e.context :: match e with
    | .loadSchema _ e => e.message :: e.causes
    | .resolve _ e => e.message :: e.causes
    | .readSprite _ e => e.message :: e.causes
    | .unknownController _ => []

/-- The wording of an error. -/
def message (e : Error) : String := ": ".intercalate e.chain

/-- The cause is a schema document that is ill-formed. -/
def isIllFormedSchema : Error → Bool
  | .loadSchema _ (.illFormed _ _) => true
  | _ => false

end Error

end Command

end FighterCheck
