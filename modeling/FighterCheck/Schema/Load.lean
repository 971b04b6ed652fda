import FighterCheck.Encoding.Utf8
import FighterCheck.Files.Tree
import FighterCheck.Schema.Elements

/-!
# Loading a catalog

A catalog is made of three documents, read in a fixed order: the rules for definitions, those for
state blocks, and the controllers. From a directory, all three are read before the first is
interpreted, and a document must be UTF-8.
-/

namespace FighterCheck.Schema

open Files

/-- The stream of elements of a document. -/
def nodesOf (path text : String) : Except Error (List Markup.Node) :=
  match Markup.nodes text with
  | .ok ns => .ok ns
  | .error fault => .error (.illFormed path fault)

/-- A document with the path that errors name it by. -/
structure Source where
  /-- the path -/
  path : String
  /-- the text -/
  text : String
  deriving Repr, DecidableEq

/-- The three documents of a catalog. -/
structure Sources where
  /-- the rules for definitions -/
  statedef : Source
  /-- the rules for state blocks -/
  state : Source
  /-- the controllers -/
  controllers : Source
  deriving Repr, DecidableEq

/-- The name of the document with the rules for definitions. -/
def statedefFile : String := "statedef.xml"

/-- The name of the document with the rules for state blocks. -/
def stateFile : String := "state.xml"

/-- The name of the document with the controllers. -/
def controllerFile : String := "controller.xml"

/-- The rules for definitions and for state blocks. -/
def Sources.rules (s : Sources) : Except Error (SectionRules × SectionRules) := do
  let statedef ← sectionRules s.statedef.path "statedef" (← nodesOf s.statedef.path s.statedef.text)
  let state ← sectionRules s.state.path "state" (← nodesOf s.state.path s.state.text)
  pure (statedef, state)

/-- What reading the controllers yields. -/
def Sources.controllerReading (s : Sources) : Except Error Reading :=
  (nodesOf s.controllers.path s.controllers.text).map (controllersOf s.controllers.path)

/-- The catalog of three documents. -/
def Sources.load (s : Sources) : Except Error Catalog := do
  let (statedef, state) ← s.rules
  let cs ← (← s.controllerReading).result
  pure ⟨statedef, state, controllerMapOf cs⟩

/-- The names of controllers that are left out because one of an equal name came before, up to the
first thing that is wrong with the documents. -/
def Sources.repeatedControllers (s : Sources) : List String :=
  match s.rules, s.controllerReading with
  | .ok _, .ok r => repeatedNames Registry.empty r.controllers
  | _, _ => []

/-- The three documents, named by their files. -/
def Sources.ofTexts (statedef state controllers : String) : Sources :=
  ⟨⟨statedefFile, statedef⟩, ⟨stateFile, state⟩, ⟨controllerFile, controllers⟩⟩

/-- The catalog of three documents named by their files. -/
def Catalog.ofTexts (statedef state controllers : String) : Except Error Catalog :=
  (Sources.ofTexts statedef state controllers).load

/-- The document in a file. -/
def readSource (t : Tree) (dir name : String) : Except Error Source :=
  match t.read (join dir name) with
  | .error fault => .error (.ofReadFault (join dir name) fault)
  | .ok octets =>
    match (Encoding.Utf8.decode octets).strict? with
    | some cs => .ok ⟨join dir name, String.ofList cs⟩
    | none => .error (.unreadable (join dir name) .notUtf8)

/-- The three documents in a directory. -/
def Sources.read (t : Tree) (dir : String) : Except Error Sources := do
  if !t.isDirectory dir then throw (.directoryNotFound dir)
  pure ⟨← readSource t dir statedefFile, ← readSource t dir stateFile,
    ← readSource t dir controllerFile⟩

/-- The catalog in a directory. -/
def Catalog.load (t : Tree) (dir : String) : Except Error Catalog := do
  (← Sources.read t dir).load

end FighterCheck.Schema
