import FighterCheck.Character.Basic
import FighterCheck.Command.Options
import FighterCheck.Schema.Load

/-!
# The files that a run looks at

A run is a function of the tree of files, so whoever starts one has to know which files to put into
the tree. Some paths follow from the command line alone; those of a character's state files follow
from its definition, which is read from what the tree holds so far.
-/

namespace FighterCheck.Command

open Files (Tree)
open Resources (Location)

/-- The schema documents. -/
def schemaInputs (resources : Location) : List String :=
  [Schema.statedefFile, Schema.stateFile, Schema.controllerFile].map
    (Files.join resources.schemaDir)

/-- The state files of a definition, as far as the tree holds the definition. -/
def stateInputs (t : Tree) (resources : Location) (path : String) : List String :=
  match Character.load t resources path with
  | .ok p => p.checked.map (·.1.path)
  | .error _ => []

/-- The files that a task looks at, as far as the tree tells. -/
def Task.inputs (t : Tree) (resources : Location) : Task → List String
  | .check path _ _ =>
    schemaInputs resources ++ [path, Character.engineCopy (Files.parent path)] ++
      stateInputs t resources path
  | .sff path => [path]
  | .schema _ => schemaInputs resources

/-- The files that a run of a command line looks at, as far as the tree tells; `environment` is the
directory of resources that the environment names. -/
def inputs (environment : Option String) (t : Tree) (args : List String) : List String :=
  match Request.read args with
  | .error _ => []
  | .ok r =>
    r.options.logFile.toList ++
      r.task.inputs t (Location.locate r.options.resources environment)

/-- The paths of the directories on the way to a path, and the path itself. -/
def wayTo (path : String) : List String :=
  let names := Text.split '/' path.toList
  ((List.range names.length).map fun n => Files.joinNames (names.take (n + 1))).filter (· ≠ "")

end FighterCheck.Command
