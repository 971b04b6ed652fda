import FighterCheck.Encoding.Utf8
import FighterCheck.Resources.CommonTemplates
import FighterCheck.Resources.SchemaDocuments
import FighterCheck.Schema.Load

/-!
# The resources that come with the program

The directory of resources as it is put up: three schema documents and three templates, each at the
path at which the program looks for it.
-/

namespace FighterCheck.Resources

open Files (Tree join)

/-- The texts of the resources by their paths in the directory of resources. -/
def bundled (l : Location) : List (String × String) := [
  (join l.schemaDir Schema.statedefFile, statedefDocument),
  (join l.schemaDir Schema.stateFile, stateDocument),
  (join l.schemaDir Schema.controllerFile, controllerDocument),
  (join l.commonDir CommonTemplate.v10.fileName, commonStates10),
  (join l.commonDir CommonTemplate.v11.fileName, commonStates11),
  (join l.commonDir CommonTemplate.win.fileName, commonStatesWin)]

/-- The tree with the resources put up in their directory. -/
def install (t : Tree) (l : Location) : Tree :=
  (bundled l).foldl (fun t (path, text) => t.putFile path (Encoding.Utf8.encode text.toList)) t

end FighterCheck.Resources
