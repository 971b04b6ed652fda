import FighterCheck.Diagnostic.Severity
import FighterCheck.Log.Filter

/-!
# The command line

A command line names a command with its operands. Options that concern every command may stand before
or after its name; of two values, one on either side, the one after it counts. An option may be given
once on each side, but the flags that make a run more or less talkative add up. After `--` everything
is an operand.
-/

namespace FighterCheck.Command

/-- What a command line asks for besides running a command. -/
inductive Refusal where
  /-- the line cannot be understood -/
  | usage
  /-- help is asked for -/
  | help
  /-- the version is asked for -/
  | version
  deriving Repr, DecidableEq

/-- The commands. -/
inductive Verb where
  /-- resolve and check a character -/
  | check
  /-- read the header of a sprite file -/
  | sff
  /-- list controllers or the parameters of one -/
  | schema
  deriving Repr, DecidableEq

/-- The command of that name. -/
def Verb.ofName? : String → Option Verb
  | "check" => some .check
  | "sff" => some .sff
  | "schema" => some .schema
  | _ => none

/-- How many operands a command takes at most. -/
def Verb.operands : Verb → Nat
  | _ => 1

/-- The options given on one side of the name of the command, and the operands after it. -/
structure Given where
  /-- how far down events are shown -/
  logLevel : Option Log.Level
  /-- how events are written -/
  logFormat : Option Log.Format
  /-- where events are written -/
  logFile : Option String
  /-- the directory of resources -/
  resources : Option String
  /-- when colours are used -/
  color : Option String
  /-- how often more events are asked for -/
  verbose : Nat
  /-- how often fewer events are asked for -/
  quiet : Nat
  /-- the least severity shown -/
  minSeverity : Option Severity
  /-- the result is written as JSON -/
  json : Bool
  /-- the operands, in order -/
  operands : List String
  deriving Repr, DecidableEq

namespace Given

/-- Nothing given. -/
def empty : Given := ⟨none, none, none, none, none, 0, 0, none, false, []⟩

/-- The options on both sides: those after the name of the command come before those ahead of it. -/
def merge (before after : Given) : Given where
  logLevel := after.logLevel.or before.logLevel
  logFormat := after.logFormat.or before.logFormat
  logFile := after.logFile.or before.logFile
  resources := after.resources.or before.resources
  color := after.color.or before.color
  verbose := if after.verbose = 0 then before.verbose else after.verbose
  quiet := if after.quiet = 0 then before.quiet else after.quiet
  minSeverity := after.minSeverity
  json := after.json
  operands := after.operands

/-- The flags for more and for fewer events exclude each other. -/
def isConsistent (g : Given) : Bool := g.verbose = 0 || g.quiet = 0

end Given

/-- The value, if none has been given before. -/
def once {α : Type} (old new : Option α) : Except Refusal (Option α) :=
  match old, new with
  | none, some v => .ok (some v)
  | _, _ => .error .usage

/-- The value if it is not empty. -/
def nonempty (s : String) : Option String := if s.isEmpty then none else some s

/-- The format of that name. -/
def formatOfName? : String → Option Log.Format
  | "pretty" => some .pretty
  | "compact" => some .compact
  | "json" => some .json
  | _ => none

/-- The severity of that name, in small letters. -/
def severityOfName? : String → Option Severity
  | "debug" => some .debug
  | "info" => some .info
  | "warning" => some .warning
  | "error" => some .error
  | _ => none

/-- The use of colours of that name. -/
def colorOfName? (s : String) : Option String :=
  if s = "auto" ∨ s = "always" ∨ s = "never" then some s else none

/-- The option takes a value; `verb` is the command if its name has been read. -/
def takesValue (verb : Option Verb) (name : String) : Bool :=
  name = "log-level" || name = "log-format" || name = "log-file" || name = "resources" ||
    name = "color" || (name = "min-severity" && verb = some .check)

/-- What is given after an option with a value. -/
def Given.setValue (g : Given) (name value : String) : Except Refusal Given :=
  match name with
  | "log-level" =>
    (once g.logLevel (Log.levels.find? (·.name == value))).map fun v => { g with logLevel := v }
  | "log-format" =>
    (once g.logFormat (formatOfName? value)).map fun v => { g with logFormat := v }
  | "log-file" => (once g.logFile (nonempty value)).map fun v => { g with logFile := v }
  | "resources" => (once g.resources (nonempty value)).map fun v => { g with resources := v }
  | "color" => (once g.color (colorOfName? value)).map fun v => { g with color := v }
  | "min-severity" =>
    (once g.minSeverity (severityOfName? value)).map fun v => { g with minSeverity := v }
  | _ => .error .usage

/-- One more time that a flag is given; beyond 255 times no more are counted. -/
def onceMore (n : Nat) : Nat := min (n + 1) 255

/-- What is given after a flag. -/
def Given.setFlag (verb : Option Verb) (g : Given) (name : String) : Except Refusal Given :=
  match name with
  | "verbose" => .ok { g with verbose := onceMore g.verbose }
  | "quiet" => .ok { g with quiet := onceMore g.quiet }
  | "json" => if verb = some .check ∧ !g.json then .ok { g with json := true } else .error .usage
  | "help" => .error .help
  | "version" => .error (if verb.isNone then .version else .usage)
  | _ => .error .usage

/-- The flag of a letter. -/
def flagOfLetter : Char → String
  | 'v' => "verbose"
  | 'q' => "quiet"
  | 'h' => "help"
  | 'V' => "version"
  | _ => ""

/-- What is given after a run of letters. -/
def Given.setLetters (verb : Option Verb) (g : Given) : List Char → Except Refusal Given
  | [] => .ok g
  | c :: cs =>
    match g.setFlag verb (flagOfLetter c) with
    | .ok g => g.setLetters verb cs
    | .error e => .error e

/-- A word of the command line. -/
inductive Word where
  /-- the mark after which all is operands -/
  | stop
  /-- an option by its name, with the value after an equals sign -/
  | option (name : String) (value : Option String)
  /-- flags by their letters -/
  | letters (cs : List Char)
  /-- anything else -/
  | plain (s : String)
  deriving Repr, DecidableEq

/-- The kind of a word. -/
def Word.ofString (s : String) : Word :=
  match s.toList with
  | ['-', '-'] => .stop
  | '-' :: '-' :: cs =>
    match Text.cut (· = '=') cs with
    | some (name, _, value) => .option (String.ofList name) (some (String.ofList value))
    | none => .option (String.ofList cs) none
  | '-' :: c :: cs => .letters (c :: cs)
  | _ => .plain s

/-- One more operand of a command. Only the name of a controller may be empty. -/
def Given.addOperand (verb : Verb) (g : Given) (s : String) : Except Refusal Given :=
  if g.operands.length < verb.operands ∧ (verb = .schema ∨ !s.isEmpty) then
    .ok { g with operands := g.operands ++ [s] }
  else .error .usage

/-- Several more operands. -/
def Given.addOperands (verb : Verb) (g : Given) (ss : List String) : Except Refusal Given :=
  ss.foldlM (Given.addOperand verb) g

/-- Reads the words after the name of a command. -/
def readOperands (verb : Verb) (g : Given) : List String → Except Refusal Given
  | [] => .ok g
  | w :: ws =>
    match Word.ofString w with
    | .stop => g.addOperands verb ws
    | .letters cs =>
      match g.setLetters (some verb) cs with
      | .ok g => readOperands verb g ws
      | .error e => .error e
    | .plain s =>
      match g.addOperand verb s with
      | .ok g => readOperands verb g ws
      | .error e => .error e
    | .option name (some value) =>
      if takesValue (some verb) name then
        match g.setValue name value with
        | .ok g => readOperands verb g ws
        | .error e => .error e
      else .error .usage
    | .option name none =>
      if takesValue (some verb) name then
        match ws with
        | [] => .error .usage
        | v :: ws =>
          match Word.ofString v with
          | .plain value =>
            match g.setValue name value with
            | .ok g => readOperands verb g ws
            | .error e => .error e
          | _ => .error .usage
      else match g.setFlag (some verb) name with
        | .ok g => readOperands verb g ws
        | .error e => .error e

/-- What `help` asks for: help in general, or on one command. -/
def helpOn : List String → Refusal
  | [] => .help
  | [name] => if name = "help" ∨ (Verb.ofName? name).isSome then .help else .usage
  | _ => .usage

/-- Reads the words up to the name of the command: what is given before it, the command, and the words
after it. -/
def readVerb (g : Given) : List String → Except Refusal (Given × Verb × List String)
  | [] => .error .usage
  | w :: ws =>
    match Word.ofString w with
    | .stop => .error .usage
    | .letters cs =>
      match g.setLetters none cs with
      | .ok g => readVerb g ws
      | .error e => .error e
    | .plain s =>
      match Verb.ofName? s with
      | some verb => .ok (g, verb, ws)
      | none => .error (if s = "help" then helpOn ws else .usage)
    | .option name (some value) =>
      if takesValue none name then
        match g.setValue name value with
        | .ok g => readVerb g ws
        | .error e => .error e
      else .error .usage
    | .option name none =>
      if takesValue none name then
        match ws with
        | [] => .error .usage
        | v :: ws =>
          match Word.ofString v with
          | .plain value =>
            match g.setValue name value with
            | .ok g => readVerb g ws
            | .error e => .error e
          | _ => .error .usage
      else match g.setFlag none name with
        | .ok g => readVerb g ws
        | .error e => .error e

/-- What a run is asked to do. -/
inductive Task where
  /-- check the character of a definition -/
  | check (path : String) (least : Severity) (json : Bool)
  /-- read the header of a sprite file -/
  | sff (path : String)
  /-- list the controllers, or the parameters of one -/
  | schema (controller : Option String)
  deriving Repr, DecidableEq

/-- A command line that has been understood. -/
structure Request where
  /-- the options for every command -/
  options : Given
  /-- the task -/
  task : Task
  deriving Repr, DecidableEq

/-- The task of a command with what is given after its name. -/
def Task.of (verb : Verb) (g : Given) : Except Refusal Task :=
  match verb, g.operands with
  | .check, [path] => .ok (.check path (g.minSeverity.getD .info) g.json)
  | .sff, [path] => .ok (.sff path)
  | .schema, [] => .ok (.schema none)
  | .schema, [name] => .ok (.schema (some name))
  | _, _ => .error .usage

/-- Understands a command line. -/
def Request.read (args : List String) : Except Refusal Request := do
  let (before, verb, ws) ← readVerb .empty args
  let after ← readOperands verb .empty ws
  if !before.isConsistent || !after.isConsistent then throw .usage
  pure ⟨before.merge after, ← Task.of verb after⟩

namespace Given

/-- Events are asked for by an option, so that the environment does not count. -/
def setsThreshold (g : Given) : Bool := g.logLevel.isSome || g.verbose ≠ 0 || g.quiet ≠ 0

/-- How far down events are shown: as an option says, else warnings, and further down or less far for
each flag that asks for it. -/
def threshold (g : Given) : Log.Threshold :=
  match g.logLevel with
  | some l => some l
  | none =>
    let rank := Log.Level.warn.rank + g.verbose - g.quiet
    Log.levels.find? fun l => l.rank == min rank Log.Level.trace.rank

/-- The filter of events, where `environment` holds directives from the environment. -/
def filter (g : Given) (environment : Option String) : Log.Filter :=
  let standard := Log.Filter.ofThreshold g.threshold
  if g.setsThreshold then standard
  else (environment.bind Log.Filter.read?).getD standard

end Given

end FighterCheck.Command
