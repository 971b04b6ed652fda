import FighterCheck.Command.Error
import FighterCheck.Text.Lowercase

/-!
# The commands

One command resolves and checks a character, one reads the header of a sprite file, and one lists the
controllers or the parameters of one of them.
-/

namespace FighterCheck.Command

open Files (Tree)
open Resources (Location)
open Schema (Catalog Controller)

/-- The catalog in the directory of resources. -/
def loadCatalog (t : Tree) (resources : Location) : Except Error Catalog :=
  (Catalog.load t resources.schemaDir).mapError (Error.loadSchema resources.schemaDir)

/-- Resolves and checks the character of a definition. -/
def check (t : Tree) (resources : Location) (path : String) : Except Error Character := do
  let c ← loadCatalog t resources
  (Character.resolve t c resources path).mapError (Error.resolve path)

/-- The findings that a check shows. -/
def shown (p : Character) (least : Severity) : List Diagnostic := p.results.report.atLeast least

/-- Reads the header of a sprite file. -/
def readSprite (t : Tree) (path : String) : Except Error Sprite.SpriteFile :=
  (Sprite.SpriteFile.open t "sprite" path).mapError (Error.readSprite path)

/-- What is listed of a schema. -/
inductive Listing where
  /-- the controllers, and how many parameters each takes -/
  | controllers (cs : List (String × Nat))
  /-- a controller -/
  | controller (c : Controller)
  deriving Repr, DecidableEq

/-- The controllers of a catalog in order of their lowercased names; of equal ones, in the order of
the catalog. -/
def listControllers (c : Catalog) : List (String × Nat) :=
  (c.controllers.map fun d => (d.name, d.properties.length)).mergeSort
    fun a b => decide (Text.lowercase a.1 ≤ Text.lowercase b.1)

/-- Lists the controllers, or the one of that name. -/
def listSchema (t : Tree) (resources : Location) (controller : Option String) :
    Except Error Listing := do
  let c ← loadCatalog t resources
  match controller with
  | none => pure (.controllers (listControllers c))
  | some name =>
    match c.controller? name with
    | some d => pure (.controller d)
    | none => throw (.unknownController name)

end FighterCheck.Command
