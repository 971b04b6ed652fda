import FighterCheck.Markup.Element
import FighterCheck.Schema.Catalog
import FighterCheck.Schema.Error
import FighterCheck.Schema.Signature

/-!
# Rules read from elements

A document of section rules has an element `section` with a name, a signature and a mark whether
comments are allowed; a document of controllers has an element `controllers`, and in it elements
`controller` with a name. Both kinds hold elements `property` with a name, a signature and a mark
whether they are optional, and in these, elements `value` with an option each. Elements of other names
are passed over. Options are kept only where a slot wants one. The stream of elements is read from
left to right, and the first thing wrong with it is the error.
-/

namespace FighterCheck.Schema

open Markup (Attributes Node)

/-- The value of an attribute that the element must have. -/
def require (path element attr : String) (as : Attributes) : Except Error String :=
  match as.value? attr with
  | some v => .ok v
  | none => .error (.missingAttribute path element attr)

/-- The truth value of an attribute that the element must have, in any case and with blanks. -/
def requireBool (path element attr : String) (as : Attributes) : Except Error Bool :=
  match require path element attr as with
  | .error e => .error e
  | .ok v =>
    match Text.asciiFold (Text.trimmed v) with
    | "true" => .ok true
    | "false" => .ok false
    | _ => .error (.invalidValue path attr v)

/-- The parameter that an element `property` opens, still without options. -/
def propertyOf (path : String) (as : Attributes) : Except Error Property := do
  let name ← require path "property" "name" as
  let signature ← require path "property" "type" as
  let optional ← requireBool path "property" "optional" as
  pure ⟨name, slots signature, optional, []⟩

/-- The parameter without the options, if no slot wants one. -/
def Property.settle (p : Property) : Property :=
  if p.hasChoiceSlot then p else { p with options := [] }

/-- The parameters read so far inside an element that holds them. -/
structure Draft where
  /-- the parameters that are complete, in order -/
  settled : List Property
  /-- the parameter whose element is open -/
  current : Option Property
  deriving Repr, DecidableEq

namespace Draft

/-- Nothing read so far. -/
def empty : Draft := ⟨[], none⟩

/-- The draft after one more step of the stream. -/
def step (path : String) (d : Draft) : Node → Except Error Draft
  | .opens tag as =>
    if tag = "property" then (propertyOf path as).map fun p => ⟨d.settled, some p⟩
    else if tag = "value" then
      match d.current with
      | none => .ok d
      | some p =>
        (require path "value" "val" as).map fun v =>
          ⟨d.settled, some { p with options := p.options ++ [v] }⟩
    else .ok d
  | .closes tag =>
    if tag = "property" then
      match d.current with
      | none => .ok d
      | some p => .ok ⟨d.settled ++ [p.settle], none⟩
    else .ok d

end Draft

/-- The parameters up to the end of the element `parent`, or of the stream. -/
def propertiesUntil (path parent : String) (d : Draft) : List Node → Except Error (List Property)
  | [] => .ok d.settled
  | n :: ns =>
    if n = .closes parent then .ok d.settled
    else match d.step path n with
      | .error e => .error e
      | .ok d => propertiesUntil path parent d ns

/-- The rules of an element `section` with the attributes `as`, which must go by the name `kind`. -/
def rulesOf (path kind : String) (as : Attributes) (ns : List Node) : Except Error SectionRules := do
  let name ← require path "section" "name" as
  if !Text.sameAscii name kind then throw (.invalidValue path "section name" name)
  let signature ← require path "section" "type" as
  let allowsComment ← requireBool path "section" "comment" as
  let properties ← propertiesUntil path "section" .empty ns
  pure ⟨kind, (slots signature).head?.getD .none, allowsComment, properties⟩

/-- The rules for sections of that kind, read from the first element `section` of a stream. -/
def sectionRules (path kind : String) : List Node → Except Error SectionRules
  | [] => .error (.missingElement path "section")
  | .opens tag as :: ns =>
    if tag = "section" then rulesOf path kind as ns else sectionRules path kind ns
  | .closes _ :: ns => sectionRules path kind ns

/-- What reading controllers from a stream yields: those that could be read before the first thing
that is wrong, and that. -/
structure Reading where
  /-- the controllers, in order, repeated names included -/
  controllers : List Controller
  /-- the first thing that is wrong -/
  fault : Option Error
  deriving Repr, DecidableEq

namespace Reading

/-- The controllers, if nothing is wrong. -/
def result (r : Reading) : Except Error (List Controller) :=
  match r.fault with
  | none => .ok r.controllers
  | some e => .error e

/-- One more controller before those of the reading. -/
def cons (c : Controller) (r : Reading) : Reading := ⟨c :: r.controllers, r.fault⟩

end Reading

mutual

/-- The controllers of a stream inside the element `controllers`. -/
def controllersInside (path : String) : List Node → Reading
  | [] => ⟨[], none⟩
  | .opens tag as :: ns =>
    if tag = "controller" then
      match require path "controller" "name" as with
      | .error e => ⟨[], some e⟩
      | .ok name => controllersAfter path name .empty ns
    else controllersInside path ns
  | .closes tag :: ns => if tag = "controllers" then ⟨[], none⟩ else controllersInside path ns

/-- The controllers of a stream inside the element of the controller `name`, which comes first. -/
def controllersAfter (path name : String) (d : Draft) : List Node → Reading
  | [] => ⟨[⟨name, d.settled⟩], none⟩
  | n :: ns =>
    if n = .closes "controller" then (controllersInside path ns).cons ⟨name, d.settled⟩
    else match d.step path n with
      | .error e => ⟨[], some e⟩
      | .ok d => controllersAfter path name d ns

end

/-- The controllers of a stream. -/
def controllersOf (path : String) : List Node → Reading
  | [] => ⟨[], some (.missingElement path "controllers")⟩
  | .opens tag _ :: ns =>
    if tag = "controllers" then controllersInside path ns else controllersOf path ns
  | .closes tag :: ns =>
    if tag = "controllers" then ⟨[], some (.missingElement path "controllers")⟩
    else controllersOf path ns

/-- The map of the controllers, of each name the first. -/
def controllerMapOf (cs : List Controller) : NameMap Controller :=
  cs.foldl (fun m c => NameMap.insert m c.name c) Registry.empty

/-- The names of the controllers that come after one of an equal name, in order. -/
def repeatedNames (seen : NameMap Controller) : List Controller → List String
  | [] => []
  | c :: cs =>
    (if seen.hasName c.name then [c.name] else []) ++ repeatedNames (seen.insert c.name c) cs

end FighterCheck.Schema
