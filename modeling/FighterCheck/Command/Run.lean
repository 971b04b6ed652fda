import FighterCheck.Command.Journal
import FighterCheck.Command.Summary

/-!
# Running a command line

A run turns a command line, some of the environment and a tree of files into what it prints, its
exit status, and the tree as it leaves it. The status is 0 if all is well, 1 if the command fails or a
check finds an error, and 2 if the command line is not understood. Events go to the error output, or to
the end of a file if one is named; the file is made before the command begins.
-/

namespace FighterCheck.Command

open Files (Tree)
open Resources (Location)

/-- What a run takes from the environment. -/
structure Environment where
  /-- the directory of resources -/
  resources : Option String
  /-- the directives for events -/
  logFilter : Option String
  deriving Repr, DecidableEq

/-- The variable of the environment that holds directives for events. -/
def logFilterVariable : String := "RUST_LOG"

/-- What a command prints, and whether it went well. -/
structure Answer where
  /-- the exit status -/
  exit : Nat
  /-- what is printed -/
  output : String
  /-- what is complained of -/
  complaint : String
  deriving Repr, DecidableEq

/-- What a run leaves. -/
structure Outcome where
  /-- the exit status -/
  exit : Nat
  /-- the standard output -/
  stdout : String
  /-- the error output -/
  stderr : String
  /-- the files -/
  tree : Tree
  deriving Repr

/-- The answer of a command that has succeeded, or the complaint of one that has not. -/
def answer {α : Type} (r : Except Error α) (exit : α → Nat) (output : α → List String) : Answer :=
  match r with
  | .ok v => ⟨exit v, asLines (output v), ""⟩
  | .error e => ⟨1, "", asLines ["error: " ++ e.message]⟩

/-- The lines that a check prints. -/
def checkLines (least : Severity) (json : Bool) (p : Character) : List String :=
  let ds := shown p least
  if json then [(checkJson p ds).laidOut 0]
  else
    ["Character: " ++ p.info.displayName ++ " (" ++ p.info.name ++ ")",
      "Definition: " ++ p.definition.path, (overviewTable p).draw .plain] ++
      (if ds.isEmpty then []
      else ["", "Diagnostics:", (diagnosticsTable ds).draw diagnosticsStyle]) ++
      ["", countsText p.results.report]

/-- The lines that are printed of a sprite file. -/
def spriteLines (s : Sprite.SpriteFile) : List String :=
  ["Sprite file: " ++ s.path, (spriteTable s).draw .plain]

/-- The table of what is listed of a schema. -/
def listingTable : Listing → Table.Grid
  | .controllers cs => controllersTable cs
  | .controller c => controllerTable c

/-- The answer of a check. -/
def checkAnswer (least : Severity) (json : Bool) (r : Except Error Character) : Answer :=
  answer r (fun p => if p.results.report.hasErrors then 1 else 0) (checkLines least json)

/-- What a task prints, and whether it went well. -/
def Task.answer (t : Tree) (resources : Location) : Task → Answer
  | .check path least json => checkAnswer least json (Command.check t resources path)
  | .sff path => Command.answer (readSprite t path) (fun _ => 0) spriteLines
  | .schema controller =>
    Command.answer (listSchema t resources controller) (fun _ => 0)
      fun l => [(listingTable l).draw .plain]

/-- What a task reports as it goes. -/
def Task.events (t : Tree) (resources : Location) : Task → List Log.Event
  | .check path _ _ => checkEvents t resources path
  | .sff path => spriteEvents t path
  | .schema _ => schemaEvents t resources

/-- What a task answers whose events go to the end of a file, and the tree as it leaves it. -/
def Task.answerLogged (j : Journal) (log : String) (t : Tree) (resources : Location) :
    Task → Answer × Tree
  | .check path least json =>
    let (t, r) := j.check log t resources path
    (checkAnswer least json r, t)
  | task => (task.answer t resources, j.report log t (task.events t resources))

/-- How the command line is used. -/
def usageText : String :=
  asLines ["Usage: mugen [OPTIONS] <COMMAND>", "", "Commands:",
    "  check   Resolve a character definition and validate its state files",
    "  sff     Print the header of a sprite (.sff) file",
    "  schema  List controller types, or the parameters of one controller"]

/-- What a run answers to a command line that it does not run. -/
def Refusal.outcome (t : Tree) : Refusal → Outcome
  | .usage => ⟨2, "", usageText, t⟩
  | .help => ⟨0, usageText, "", t⟩
  | .version => ⟨0, "mugen 0.1.0\n", "", t⟩

/-- Which events of a request are written, and how. -/
def Request.journal (env : Environment) (r : Request) : Journal :=
  ⟨r.options.filter env.logFilter, r.options.logFormat.getD .pretty⟩

/-- The directory of resources that a request is for. -/
def Request.resources (env : Environment) (r : Request) : Location :=
  .locate r.options.resources env.resources

/-- Runs a task whose events go to the error output. -/
def Request.runOpenly (env : Environment) (t : Tree) (r : Request) : Outcome :=
  let a := r.task.answer t (r.resources env)
  let log := (r.journal env).text (r.task.events t (r.resources env))
  ⟨a.exit, a.output, log ++ a.complaint, t⟩

/-- Runs a task whose events go to the end of a file. -/
def Request.runLogged (env : Environment) (t : Tree) (path : String) (r : Request) : Outcome :=
  match appendText t path "" with
  | .error fault =>
    ⟨1, "", asLines ["error: failed to initialize logging: " ++ fault.message], t⟩
  | .ok t =>
    let (a, t) := r.task.answerLogged (r.journal env) path t (r.resources env)
    ⟨a.exit, a.output, a.complaint, t⟩

/-- Runs a task. -/
def Request.run (env : Environment) (t : Tree) (r : Request) : Outcome :=
  match r.options.logFile with
  | none => r.runOpenly env t
  | some path => r.runLogged env t path

/-- Runs a command line. -/
def run (env : Environment) (t : Tree) (args : List String) : Outcome :=
  match Request.read args with
  | .error refusal => refusal.outcome t
  | .ok r => r.run env t

end FighterCheck.Command
