import FighterCheck.Files.Tree
import FighterCheck.Sprite.Header

/-!
# Sprite files

Of a sprite file only the header is read, which takes no more octets than the longer of the two
layouts. A file that is not there counts as an empty container in the second layout.
-/

namespace FighterCheck.Sprite

open Files

/-- Why a sprite file cannot be used. -/
inductive Error where
  /-- what the file begins with is no header -/
  | header (e : HeaderError)
  /-- the file is there but cannot be read -/
  | unreadable (path : String) (fault : Fault)
  deriving Repr, DecidableEq

/-- The wording of an error. -/
def Error.message : Error → String
  | .header e => e.message
  | .unreadable path fault => "failed to read " ++ path ++ ": " ++ fault.message

/-- The header of the file at a path. -/
def readHeader (t : Tree) (path : String) : Except Error Header :=
  match t.read path with
  | .error .notFound => .ok (.second .fresh)
  | .error fault => .error (.unreadable path fault)
  | .ok octets =>
    match Header.read (octets.take Layout.second.length) with
    | .ok h => .ok h
    | .error e => .error (.header e)

/-- A sprite file that a character refers to. -/
structure SpriteFile where
  /-- what the file is to its character -/
  key : String
  /-- where the file should be -/
  path : String
  /-- the header -/
  header : Header
  deriving Repr, DecidableEq

/-- Opens the file at a path. -/
def SpriteFile.open (t : Tree) (key path : String) : Except Error SpriteFile :=
  (readHeader t path).map fun h => ⟨key, path, h⟩

end FighterCheck.Sprite
