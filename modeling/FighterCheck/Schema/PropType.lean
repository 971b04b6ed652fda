import FighterCheck.Json.Record
import FighterCheck.Text.Blank
import FighterCheck.Text.Lowercase

/-!
# Kinds of values

A parameter has one or more slots, each for a value of some kind. Kinds are named by tokens in any
case; a token that names none stands for the kind `None`.
-/

namespace FighterCheck.Schema

/-- The kind of value that a slot takes. -/
inductive PropType where
  /-- a whole number -/
  | int
  /-- a number -/
  | float
  /-- a text -/
  | string
  /-- a truth value -/
  | bool
  /-- an attribute of a hit -/
  | hitAttr
  /-- one of a list of options -/
  | choice
  /-- several of a list of options -/
  | choices
  /-- nothing known -/
  | none
  deriving Repr, DecidableEq

namespace PropType

/-- All kinds. -/
def all : List PropType := [.int, .float, .string, .bool, .hitAttr, .choice, .choices, .none]

/-- The name of a kind. -/
def name : PropType → String
  | .int => "Int"
  | .float => "Float"
  | .string => "String"
  | .bool => "Bool"
  | .hitAttr => "HitAttr"
  | .choice => "Enum"
  | .choices => "MultiEnum"
  | .none => "None"

/-- The kind that a token names. -/
def ofToken (token : String) : PropType :=
  match Text.lowercase (Text.trimmed token) with
  | "int" => .int
  | "float" => .float
  | "string" => .string
  | "bool" => .bool
  | "hitattr" => .hitAttr
  | "enum" => .choice
  | "multienum" => .choices
  | _ => .none

/-- The kind takes its values from a list of options. -/
def hasOptions : PropType → Bool
  | .choice => true
  | .choices => true
  | _ => false

/-- The kind of exactly that name. -/
def ofName? (name : String) : Option PropType := all.find? (·.name == name)

/-- The JSON form: the name. -/
def toJson (t : PropType) : Json := .string t.name

/-- The kind that a JSON value stands for. -/
def ofJson? (v : Json) : Option PropType := v.variant?.bind ofName?

theorem ofName?_name (t : PropType) : ofName? t.name = some t := by
  cases t <;> decide

theorem ofJson?_toJson (t : PropType) : ofJson? t.toJson = some t := ofName?_name t

end PropType

end FighterCheck.Schema
