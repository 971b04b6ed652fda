import FighterCheck.Registry
import FighterCheck.Schema.Property

/-!
# The catalog

The catalog holds all rules: those for the headers of definitions, those for state blocks, and those
of every known controller. Controllers are kept by their names without regard to ASCII case, of two
with the same name the first, in ascending order of these names. A controller is looked up by a name
with blanks around it trimmed.
-/

namespace FighterCheck

/-- Values by name without regard to ASCII case, each with the name it was first recorded under. -/
abbrev NameMap (α : Type) := Registry String (String × α)

namespace NameMap

/-- The map after the value has been recorded under the name, unless an equal name has one. -/
def insert {α : Type} (m : NameMap α) (name : String) (v : α) : NameMap α :=
  m.record (Text.asciiFold name) (name, v)

/-- The value recorded under the name. -/
def value? {α : Type} (m : NameMap α) (name : String) : Option α :=
  (m.find? (Text.asciiFold name)).map (·.2)

/-- The name as it was recorded. -/
def spelling? {α : Type} (m : NameMap α) (name : String) : Option String :=
  (m.find? (Text.asciiFold name)).map (·.1)

/-- Some value is recorded under the name. -/
def hasName {α : Type} (m : NameMap α) (name : String) : Bool :=
  m.contains (Text.asciiFold name)

/-- What is given back of a value that is to be recorded under the name, and the map after that: the value
is given back if an equal name has one. -/
def offer {α : Type} (m : NameMap α) (name : String) (v : α) : Option α × NameMap α :=
  (if m.hasName name then some v else none, m.insert name v)

/-- The names as they were recorded with their values, in ascending order of the folded names. -/
def toList {α : Type} (m : NameMap α) : List (String × α) := m.entries.map (·.2)

end NameMap

namespace Schema

/-- The rules for definitions, state blocks and controllers. -/
structure Catalog where
  /-- the rules for the headers of definitions -/
  statedef : SectionRules
  /-- the rules for state blocks -/
  state : SectionRules
  /-- the rules of the controllers, by name -/
  controllerMap : NameMap Controller
  deriving Repr, DecidableEq

namespace Catalog

/-- The controllers, in ascending order of their folded names. -/
def controllers (c : Catalog) : List Controller := c.controllerMap.toList.map (·.2)

/-- The controller of that name. -/
def controller? (c : Catalog) (name : String) : Option Controller :=
  c.controllerMap.value? (Text.trimmed name)

/-- There is a controller of that name. -/
def isController (c : Catalog) (name : String) : Bool :=
  c.controllerMap.hasName (Text.trimmed name)

/-- The parameters of the controller of that name; none if there is no such. -/
def controllerProperties (c : Catalog) (name : String) : List Property :=
  ((c.controller? name).map Controller.properties).getD []

end Catalog

end Schema

end FighterCheck
