import FighterCheck.Character.CommonStates
import FighterCheck.Character.Manifest
import FighterCheck.State.Validation

/-!
# Characters

A character is what its definition refers to: files by key and path, of which none but the definition
need be there, and what the last check of its state files has yielded. A check reads the declared
state files in the order of their keys and the common file last, and starts from nothing. A missing
state file is a finding; any other failure to read one ends the check, and then the results of the
check before stay as they were.
-/

namespace FighterCheck

open Files (Tree)
open Ini (SourceFile)
open Schema (Catalog)
open State (FileContext OwnerMap PositionIndex)

namespace Character

/-- The section of a definition that declares files. -/
def filesSection : String := "files"

/-- The key of the common state file. -/
def commonKey : String := "stcommon"

/-- The keys of state files, in the order in which they are checked. -/
def stateKeys : List String :=
  "st" :: (List.range 10).map fun i => "st" ++ Text.showNat i

/-- The files besides states that a definition may declare. -/
structure Assets where
  /-- the sprites -/
  sprite : Option String
  /-- the animations -/
  anim : Option String
  /-- the sounds -/
  sound : Option String
  /-- the hints for the computer's play -/
  ai : Option String
  deriving Repr, DecidableEq

/-- What a check of the state files has yielded. -/
structure Results where
  /-- the file that declared each number first -/
  owners : OwnerMap
  /-- by the key of each file that could be read, where it declares its numbers -/
  locators : Registry String PositionIndex
  /-- the findings -/
  report : Report
  deriving Repr, DecidableEq

/-- The results before any check. -/
def Results.empty : Results := ⟨Registry.empty, Registry.empty, Report.empty⟩

end Character

/-- A character as its definition describes it. -/
structure Character where
  /-- the definition -/
  definition : SourceFile
  /-- what the definition says of the character -/
  info : Character.Info
  /-- the commands -/
  cmd : SourceFile
  /-- the constants -/
  cns : SourceFile
  /-- the common state file -/
  common : SourceFile
  /-- how the common state file was chosen -/
  commonSource : Character.CommonSource
  /-- the declared state files, in the order in which they are checked -/
  stateFiles : List SourceFile
  /-- the other declared files -/
  assets : Character.Assets
  /-- what the last check has yielded -/
  results : Character.Results
  deriving Repr, DecidableEq

namespace Character

/-! ## Resolving a definition -/

/-- The path declared under a key. -/
def declared? (d : Ini.Document) (base key : String) : Option String :=
  (d.value? filesSection key).map (declaredPath base)

/-- The path declared under a key, or the one of the default name. -/
def declaredOr (d : Ini.Document) (base key fallback : String) : String :=
  declaredPath base (d.valueOr filesSection key fallback)

/-- The state files that a definition declares. -/
def stateFilesOf (d : Ini.Document) (base : String) : List SourceFile :=
  stateKeys.filterMap fun key => (declared? d base key).map fun path => ⟨key, path⟩

/-- The character of a definition at `path`, not checked yet. -/
def ofDocument (t : Tree) (resources : Resources.Location) (path : String) (d : Ini.Document) :
    Except Error Character := do
  let info ← Info.ofDocument d path
  let base := Files.parent path
  let (commonPath, commonSource) := resolveCommon t base
    (d.valueOr filesSection commonKey standardCommonFile) info.version resources
  pure {
    definition := ⟨"def", path⟩
    info := info
    cmd := ⟨"cmd", declaredOr d base "cmd" "blank.cmd"⟩
    cns := ⟨"cns", declaredOr d base "cns" "blank.cns"⟩
    common := ⟨commonKey, commonPath⟩
    commonSource := commonSource
    stateFiles := stateFilesOf d base
    assets := ⟨declared? d base "sprite", declared? d base "anim", declared? d base "sound",
      declared? d base "ai"⟩
    results := .empty }

/-- The document of a definition. -/
def readDefinition (t : Tree) (path : String) : Except Error Ini.Document :=
  match SourceFile.parse ⟨"def", path⟩ t with
  | .ok d => .ok d
  | .error (.fileNotFound p) => .error (.definitionNotFound p)
  | .error e => .error (.ini e)

/-- Resolves the definition at a path, without checking state files. -/
def load (t : Tree) (resources : Resources.Location) (path : String) : Except Error Character := do
  ofDocument t resources path (← readDefinition t path)

/-! ## Checking the state files -/

/-- The files that a check reads, in order: the state files, then the common one. -/
def checked (p : Character) : List (SourceFile × FileContext) :=
  p.stateFiles.map (fun f => (f, ⟨f.key, false⟩)) ++ [(p.common, ⟨p.common.key, true⟩)]

/-- The finding that a state file is missing. -/
def missingFinding (f : SourceFile) (path : String) : Diagnostic :=
  ⟨"State file " ++ f.key ++ " not found at " ++ path ++ "!", .warning, some f.key⟩

/-- The results after one more file. -/
def Results.step (t : Tree) (c : Catalog) (r : Results) (f : SourceFile) (file : FileContext) :
    Except Error Results :=
  match f.parse t with
  | .error (.fileNotFound path) =>
    .ok { r with report := r.report.append [missingFinding f path] }
  | .error e => .error (.ini e)
  | .ok d =>
    let o := State.validate c file r.owners d
    .ok ⟨o.owners, r.locators.put f.key o.index, r.report.append o.findings⟩

/-- The results after some more files; the first that cannot be read ends the check. -/
def Results.run (t : Tree) (c : Catalog) (r : Results) :
    List (SourceFile × FileContext) → Except Error Results
  | [] => .ok r
  | (f, file) :: fs =>
    match r.step t c f file with
    | .ok r => r.run t c fs
    | .error e => .error e

/-- The character after its state files have been checked from nothing. -/
def validate (t : Tree) (c : Catalog) (p : Character) : Except Error Character :=
  match Results.empty.run t c p.checked with
  | .ok r => .ok { p with results := r }
  | .error e => .error e

/-- Resolves the definition at a path and checks the state files. -/
def resolve (t : Tree) (c : Catalog) (resources : Resources.Location) (path : String) :
    Except Error Character := do
  (← load t resources path).validate t c

/-! ## Looking things up -/

/-- The state file of that key, without regard to ASCII case. -/
def stateFile? (p : Character) (key : String) : Option SourceFile :=
  if Text.sameAscii key commonKey then some p.common
  else p.stateFiles.find? fun f => Text.sameAscii f.key key

/-- Where a definition stands. -/
structure StatedefPlace where
  /-- the key of its file -/
  fileKey : String
  /-- the path of its file -/
  path : String
  /-- the position of its section -/
  position : Nat
  deriving Repr, DecidableEq

/-- Where the definition of a number stands, by the last check. -/
def locate? (p : Character) (id : Int32) : Option StatedefPlace := do
  let key ← p.results.owners.find? id
  let position ← (← p.results.locators.find? key).find? id
  let file ← p.stateFile? key
  pure ⟨key, file.path, position⟩

/-- Opens the declared sprite file. -/
def openSprite (t : Tree) (p : Character) : Except Error Sprite.SpriteFile :=
  match p.assets.sprite with
  | none => .error (.noSpriteFile p.definition.path)
  | some path => (Sprite.SpriteFile.open t "sprite" path).mapError Error.sprite

end Character

end FighterCheck
