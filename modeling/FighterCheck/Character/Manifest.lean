import FighterCheck.Ini.Literal
import FighterCheck.Ini.SourceFile
import FighterCheck.Sprite.File

/-!
# What a definition says of its character

The section `info` of a definition names the character in two quoted texts, tells the version of the
engine it was made for, and the coordinate space. Each has a default where it is left out. The errors
of reading a character are gathered here.
-/

namespace FighterCheck

/-- The coordinate space that a character was made for. -/
structure LocalCoord where
  /-- its width -/
  width : Int32
  /-- its height -/
  height : Int32
  deriving Repr, DecidableEq

namespace LocalCoord

/-- The first two parts between commas, blanks around them not counting; further parts are
ignored. -/
def read? (value : String) : Option LocalCoord :=
  match Text.split ',' value.toList with
  | w :: h :: _ => do pure ⟨← Text.readInt32 (Text.trim w), ← Text.readInt32 (Text.trim h)⟩
  | _ => none

/-- Width and height with a comma between them. -/
def text (c : LocalCoord) : String := Text.showInt32 c.width ++ "," ++ Text.showInt32 c.height

end LocalCoord

namespace Character

/-- Why a character cannot be read or checked. -/
inductive Error where
  /-- the definition is missing -/
  | definitionNotFound (path : String)
  /-- the coordinate space is not two numbers -/
  | invalidLocalCoord (path value : String)
  /-- the definition names no sprite file -/
  | noSpriteFile (path : String)
  /-- the definition or a state file cannot be used -/
  | ini (e : Ini.Error)
  /-- the sprite file cannot be used -/
  | sprite (e : Sprite.Error)
  deriving Repr, DecidableEq

/-- The wording of an error. -/
def Error.message : Error → String
  | .definitionNotFound path => "character definition not found: " ++ path
  | .invalidLocalCoord path value => "invalid localcoord " ++ Text.quote value ++ " in " ++ path
  | .noSpriteFile path => "no sprite file declared in " ++ path
  | .ini e => e.message
  | .sprite e => e.message

/-- What a definition says of its character. -/
structure Info where
  /-- the name -/
  name : String
  /-- the name that the game shows -/
  displayName : String
  /-- the version of the engine, as declared -/
  version : String
  /-- the coordinate space -/
  localCoord : LocalCoord
  deriving Repr, DecidableEq

/-- The section that holds the information. -/
def infoSection : String := "info"

/-- The quoted text under a key, or the default where the key is missing. -/
def quotedOr (d : Ini.Document) (key fallback : String) : Except Error String :=
  match d.value? infoSection key with
  | none => .ok fallback
  | some raw => (Ini.unquote raw).mapError Error.ini

/-- The information in a definition that errors name by its path. -/
def Info.ofDocument (d : Ini.Document) (path : String) : Except Error Info := do
  let name ← quotedOr d "name" "New character"
  let displayName ← quotedOr d "displayname" "NewCharacter"
  let coord := d.valueOr infoSection "localcoord" "320,240"
  match LocalCoord.read? coord with
  | none => throw (.invalidLocalCoord path coord)
  | some c => pure ⟨name, displayName, d.valueOr infoSection "mugenversion" "win", c⟩

end Character

end FighterCheck
