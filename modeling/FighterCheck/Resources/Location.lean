import FighterCheck.Files.Path
import FighterCheck.Text.Blank

/-!
# Where resources are

The schema and the templates of the common state file stand in one directory: the one that is asked
for, else the one that the environment names, else the standard one. The template is chosen by the
version of the engine that a character declares.
-/

namespace FighterCheck.Resources

open Files (join)

/-- The variable of the environment that names the directory of resources. -/
def directoryVariable : String := "MUGEN_RESOURCES_DIR"

/-- The directory of resources where none is named. -/
def standardRoot : String := "resources"

/-- A template of the common state file. -/
inductive CommonTemplate where
  /-- for version 1.0 of the engine -/
  | v10
  /-- for version 1.1 of the engine -/
  | v11
  /-- for the engine on Windows, and for every other version -/
  | win
  deriving Repr, DecidableEq

namespace CommonTemplate

/-- The template for a declared version. -/
def ofVersion (version : String) : CommonTemplate :=
  match Text.trimmed version with
  | "1.0" => .v10
  | "1.1" => .v11
  | _ => .win

/-- The file of a template. -/
def fileName : CommonTemplate → String
  | .v10 => "common1-1.0.cns"
  | .v11 => "common1-1.1.cns"
  | .win => "common1-win.cns"

end CommonTemplate

/-- The directory of resources. -/
structure Location where
  /-- its path -/
  root : String
  deriving Repr, DecidableEq

namespace Location

/-- The directory that is asked for, else the one of the environment, else the standard one. -/
def locate (explicit environment : Option String) : Location :=
  ⟨(explicit.or environment).getD standardRoot⟩

/-- The directory of the schema. -/
def schemaDir (l : Location) : String := join l.root "schema"

/-- The directory of the templates. -/
def commonDir (l : Location) : String := join l.root "common"

/-- The template for a declared version. -/
def commonTemplate (l : Location) (version : String) : String :=
  join l.commonDir (CommonTemplate.ofVersion version).fileName

end Location

end FighterCheck.Resources
