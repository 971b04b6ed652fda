import FighterCheck.Command.Basic
import FighterCheck.Log.Event

/-!
# What commands report as they go

The events of a run follow from the files that it reads: each step that is taken reports itself, and
the step that fails reports nothing more.
-/

namespace FighterCheck.Command

open Files (Tree)
open Ini (SourceFile)
open Log (Event Span)
open Resources (Location)
open Schema (Catalog Sources)
open State (FileContext)

/-! ## The schema -/

/-- The event that a controller is left out because one of an equal name came before. -/
def repeatedEvent (path name : String) : Event :=
  ⟨.warn, "mugen_standards::loader", "duplicate controller ignored",
    [("controller", .bare name), ("path", .bare path)], []⟩

/-- The event that a catalog has been loaded. -/
def loadedEvent (dir : String) (c : Catalog) : Event :=
  ⟨.debug, "mugen_standards::catalog", "loaded schema catalog",
    [("dir", .bare dir), ("statedef_properties", .number c.statedef.properties.length),
      ("state_properties", .number c.state.properties.length),
      ("controllers", .number c.controllerMap.size)], []⟩

/-- What loading a catalog reports. -/
def catalogEvents (t : Tree) (dir : String) : List Event :=
  match Sources.read t dir with
  | .error _ => []
  | .ok s =>
    s.repeatedControllers.map (repeatedEvent s.controllers.path) ++
      match s.load with
      | .ok c => [loadedEvent dir c]
      | .error _ => []

/-! ## Section files -/

/-- The event that a file has been read. -/
def parsedEvent (f : SourceFile) (raw : Ini.RawText) (d : Ini.Document) : Event :=
  ⟨.debug, "mugen_ini::file", "parsed file",
    [("key", .bare f.key), ("path", .bare f.path),
      ("encoding", .text raw.encoding.charset.name), ("sections", .number d.sections.length)], []⟩

/-- What reading a file reports. -/
def parseEvents (t : Tree) (f : SourceFile) : List Event :=
  match f.readRaw t with
  | .error _ => []
  | .ok raw =>
    match f.parseText raw.text with
    | .error _ => []
    | .ok d => [parsedEvent f raw d]

/-! ## Definitions -/

/-- An event of resolving a definition. -/
def resolveEvent (level : Log.Level) (message : String) (fields : Log.Fields) : Event :=
  ⟨level, "mugen_project::project", message, fields, []⟩

/-- What choosing the common state file reports: nothing if the character has its own. -/
def commonEvents (base : String) (path : String) : Character.CommonSource → List Event
  | .declared => []
  | .engineData =>
    [⟨.debug, "mugen_project::common", "using engine common file", [("path", .bare path)], []⟩]
  | .template template =>
    [⟨.debug, "mugen_project::common", "engine common file not found, using bundled template",
      [("engine_copy", .bare (Character.engineCopy base)), ("template", .text template.fileName)],
      []⟩]

/-- What is reported of state files that a definition does not declare. -/
def undeclaredEvents (p : Character) : List Event :=
  (Character.stateKeys.filter fun key => !p.stateFiles.any (·.key == key)).map fun key =>
    resolveEvent .trace "state file not declared" [("key", .bare key)]

/-- The event that a definition has been resolved. -/
def resolvedEvent (p : Character) : Event :=
  resolveEvent .debug "resolved character definition"
    [("name", .bare p.info.name), ("version", .bare p.info.version),
      ("state_files", .number p.stateFiles.length), ("common", .bare p.commonSource.text)]

/-- What resolving a definition reports. -/
def loadEvents (t : Tree) (resources : Location) (path : String) : List Event :=
  let events := parseEvents t ⟨"def", path⟩ ++
    match Character.load t resources path with
    | .error _ => []
    | .ok p =>
      commonEvents (Files.parent path) p.common.path p.commonSource ++ undeclaredEvents p ++
        [resolvedEvent p]
  events.map (Event.within
    ⟨"mugen_project::project", "resolve_project", [("manifest", .bare path)]⟩)

/-! ## State files -/

/-- The event that a state file has been checked. -/
def validatedFileEvent (file : FileContext) (o : State.Outcome) : Event :=
  ⟨.debug, "mugen_validate::validator", "validated state file",
    [("statedefs", .number o.index.size), ("diagnostics", .number o.findings.length)],
    [⟨"mugen_validate::validator", "validate_state_file",
      [("file", .text file.key), ("common", .bool file.isCommon)]⟩]⟩

/-- The event that all state files have been checked. -/
def validatedEvent (r : Character.Results) : Event :=
  ⟨.info, "mugen_project::project", "validated project",
    [("statedefs", .number r.owners.size), ("diagnostics", .number r.report.size),
      ("errors", .number (r.report.count .error))], []⟩

/-- What checking one more file reports. -/
def fileEvents (t : Tree) (c : Catalog) (r : Character.Results) (f : SourceFile)
    (file : FileContext) : List Event :=
  parseEvents t f ++
    match f.parse t with
    | .ok d => [validatedFileEvent file (State.validate c file r.owners d)]
    | .error _ => []

/-- What checking some more files reports. -/
def runEvents (t : Tree) (c : Catalog) (r : Character.Results) :
    List (SourceFile × FileContext) → List Event
  | [] => [validatedEvent r]
  | (f, file) :: fs =>
    fileEvents t c r f file ++
      match r.step t c f file with
      | .ok r => runEvents t c r fs
      | .error _ => []

/-- The activity of checking a character. -/
def validateSpan (p : Character) : Span :=
  ⟨"mugen_project::project", "validate_project", [("name", .bare p.info.name)]⟩

/-- What checking a character reports. -/
def validateEvents (t : Tree) (c : Catalog) (p : Character) : List Event :=
  (runEvents t c .empty p.checked).map (Event.within (validateSpan p))

/-! ## Commands -/

/-- The activity of resolving and checking a character. -/
def checkSpan (path : String) : Span :=
  ⟨"mugen_cli::commands", "check", [("manifest", .bare path)]⟩

/-- What resolving and checking a character reports. -/
def checkEvents (t : Tree) (resources : Location) (path : String) : List Event :=
  let events := catalogEvents t resources.schemaDir ++
    match loadCatalog t resources with
    | .error _ => []
    | .ok c =>
      loadEvents t resources path ++
        match Character.load t resources path with
        | .error _ => []
        | .ok p => validateEvents t c p
  events.map (Event.within (checkSpan path))

/-- What reading the header of a sprite file reports. -/
def spriteEvents (t : Tree) (path : String) : List Event :=
  match readSprite t path with
  | .error _ => []
  | .ok s =>
    let version := ("version", Log.Value.bare s.header.version.text)
    (match t.read path with
    | .error _ =>
      ⟨.debug, "mugen_sff::reader", "sprite file absent, using fresh v2 header",
        [("path", .bare path)], []⟩
    | .ok _ =>
      ⟨.debug, "mugen_sff::reader", "read sprite header",
        [("path", .bare path), version, ("sprites", .number s.header.spriteCount.toNat)], []⟩) ::
      [⟨.debug, "mugen_cli::commands", "read sprite header", [version], []⟩]

/-- What listing a schema reports. -/
def schemaEvents (t : Tree) (resources : Location) : List Event :=
  catalogEvents t resources.schemaDir

end FighterCheck.Command
