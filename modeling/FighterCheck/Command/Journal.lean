import FighterCheck.Command.Options
import FighterCheck.Command.Trace

/-!
# Events in a file

Events may go to the end of a file. The file grows while the command goes on, so a command that comes
to read that file itself finds the events in it that it has reported by then. Only a check reads files
after it has reported something: the definition, and the state files one by one.
-/

namespace FighterCheck.Command

open Files (Tree)
open Ini (SourceFile)
open Log (Event)
open Resources (Location)
open Schema (Catalog)
open State (FileContext)

/-- Lines with their ends. -/
def asLines (ls : List String) : String := String.join (ls.map (· ++ "\n"))

/-- Which events are written, and how. -/
structure Journal where
  /-- which events are shown -/
  filter : Log.Filter
  /-- how they are written -/
  format : Log.Format
  deriving Repr, DecidableEq

/-- The octets of a file, none if there is no such file. -/
def octetsOrNone (t : Tree) (path : String) : List UInt8 := (t.read path).toOption.getD []

/-- The tree after the text has been put at the end of a file. -/
def appendText (t : Tree) (path text : String) : Except Files.Fault Tree :=
  t.write path (octetsOrNone t path ++ Encoding.Utf8.encode text.toList)

namespace Journal

/-- The lines of those events that are shown. -/
def text (j : Journal) (es : List Event) : String :=
  asLines ((j.filter.select es).map (Event.line j.format))

/-- The tree after events have been reported to a file. -/
def report (j : Journal) (log : String) (t : Tree) (es : List Event) : Tree :=
  (appendText t log (j.text es)).toOption.getD t

/-- The results after some more files and the tree as it is then; `inside` puts an event into the
activities that are going on. -/
def runFiles (j : Journal) (log : String) (inside : Event → Event) (c : Catalog) :
    Tree → Character.Results → List (SourceFile × FileContext) →
      Tree × Except Character.Error Character.Results
  | t, r, [] => (j.report log t [inside (validatedEvent r)], .ok r)
  | t, r, (f, file) :: fs =>
    let after := j.report log t ((fileEvents t c r f file).map inside)
    match r.step t c f file with
    | .ok r => runFiles j log inside c after r fs
    | .error e => (after, .error e)

/-- Resolves and checks the character of a definition, and gives the tree as it is then. -/
def check (j : Journal) (log : String) (t : Tree) (resources : Location) (path : String) :
    Tree × Except Error Character :=
  let inCheck := Event.within (checkSpan path)
  let loaded := j.report log t ((catalogEvents t resources.schemaDir).map inCheck)
  match loadCatalog t resources with
  | .error e => (loaded, .error e)
  | .ok c =>
    let resolved := j.report log loaded ((loadEvents loaded resources path).map inCheck)
    match Character.load loaded resources path with
    | .error e => (resolved, .error (Error.resolve path e))
    | .ok p =>
      let (checked, r) :=
        j.runFiles log (inCheck ∘ Event.within (validateSpan p)) c resolved .empty p.checked
      (checked, (r.map fun r => { p with results := r }).mapError (Error.resolve path))

end Journal

end FighterCheck.Command
