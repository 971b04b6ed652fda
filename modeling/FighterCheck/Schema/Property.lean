import FighterCheck.Schema.PropType
import FighterCheck.Text.AsciiCase

/-!
# Parameters, and what takes them

The schema says which parameters a section of some kind takes and which a controller does. A
parameter has a name, slots, and, where a slot wants one, a list of options. Names and options are
compared without regard to ASCII case.
-/

namespace FighterCheck.Schema

open Text (sameAscii)

/-- A parameter that a section or controller takes. -/
structure Property where
  /-- the name -/
  name : String
  /-- the kinds of its slots -/
  types : List PropType
  /-- the parameter may be left out -/
  optional : Bool
  /-- the options of its slots -/
  options : List String
  deriving Repr, DecidableEq

namespace Property

/-- The kind of the first slot. -/
def firstType? (p : Property) : Option PropType := p.types.head?

/-- The parameter has one slot and that wants one of the options. -/
def isSingleChoice (p : Property) : Bool := p.types == [.choice]

/-- Some slot takes its value from the options. -/
def hasChoiceSlot (p : Property) : Bool := p.types.any PropType.hasOptions

/-- The value, without the blanks around it, is one of the options. -/
def permits (p : Property) (value : String) : Bool :=
  p.options.any (sameAscii · (Text.trimmed value))

/-- The slots in words, each with the options it may take, and whether the parameter may be left
out. -/
def describe (p : Property) : String :=
  let slot (t : PropType) : String :=
    if t.hasOptions && !p.options.isEmpty then
      t.name ++ " (" ++ " ".intercalate p.options ++ ")"
    else t.name
  ", ".intercalate (p.types.map slot) ++ if p.optional then " (optional)" else ""

/-- The JSON form. -/
def toJson (p : Property) : Json :=
  .object [("name", .string p.name), ("types", .array (p.types.map PropType.toJson)),
    ("optional", .bool p.optional), ("enum_options", .array (p.options.map Json.string))]

/-- The parameter that a JSON value stands for. The options may be missing. -/
def ofJson? (v : Json) : Option Property :=
  match v.fields? ["name", "types", "optional", "enum_options"] with
  | some [some name, some types, some optional, options] => do
    let options ← match options with
      | none => some []
      | some os => os.list? Json.string?
    pure ⟨← name.string?, ← types.list? PropType.ofJson?, ← optional.bool?, options⟩
  | _ => none

end Property

/-- The first parameter of that name. -/
def findProperty? (ps : List Property) (name : String) : Option Property :=
  ps.find? (sameAscii ·.name name)

/-- There is a parameter of that name. -/
def hasProperty (ps : List Property) (name : String) : Bool :=
  ps.any (sameAscii ·.name name)

/-- What a section of some kind takes. -/
structure SectionRules where
  /-- the kind of section -/
  name : String
  /-- the kind of value in its header -/
  headerType : PropType
  /-- its header may hold a comment -/
  allowsComment : Bool
  /-- its parameters -/
  properties : List Property
  deriving Repr, DecidableEq

namespace SectionRules

/-- The first parameter of that name. -/
def property? (s : SectionRules) (name : String) : Option Property :=
  findProperty? s.properties name

/-- The parameters that may not be left out. -/
def required (s : SectionRules) : List Property := s.properties.filter (!·.optional)

/-- The JSON form. -/
def toJson (s : SectionRules) : Json :=
  .object [("name", .string s.name), ("header_type", s.headerType.toJson),
    ("allows_comment", .bool s.allowsComment),
    ("properties", .array (s.properties.map Property.toJson))]

/-- The rules that a JSON value stands for. -/
def ofJson? (v : Json) : Option SectionRules :=
  match v.fields? ["name", "header_type", "allows_comment", "properties"] with
  | some [some name, some headerType, some allowsComment, some properties] => do
    pure ⟨← name.string?, ← PropType.ofJson? headerType, ← allowsComment.bool?,
      ← properties.list? Property.ofJson?⟩
  | _ => none

end SectionRules

/-- What a state controller takes. -/
structure Controller where
  /-- the name of the controller -/
  name : String
  /-- its parameters -/
  properties : List Property
  deriving Repr, DecidableEq

namespace Controller

/-- The JSON form. -/
def toJson (c : Controller) : Json :=
  .object [("name", .string c.name), ("properties", .array (c.properties.map Property.toJson))]

/-- The controller that a JSON value stands for. -/
def ofJson? (v : Json) : Option Controller :=
  match v.fields? ["name", "properties"] with
  | some [some name, some properties] => do
    pure ⟨← name.string?, ← properties.list? Property.ofJson?⟩
  | _ => none

end Controller

end FighterCheck.Schema
