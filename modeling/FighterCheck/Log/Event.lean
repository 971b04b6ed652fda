import FighterCheck.Json.Printer
import FighterCheck.Text.Blank
import FighterCheck.Text.Integer
import FighterCheck.Text.Quoted

/-!
# What a run reports as it goes

While a command runs it reports events. An event has a level, the part of the program it comes from,
a message and fields, and it stands inside spans, the activities that are going on. On a line of its
own an event shows its level, its spans from the outermost to the innermost with their fields, its
message and its fields. Texts are quoted where they are plain values and stand bare where they name
things.
-/

namespace FighterCheck.Log

/-- How much an event matters, from the gravest down. -/
inductive Level where
  /-- a failure -/
  | error
  /-- a problem that the run gets over -/
  | warn
  /-- a summary -/
  | info
  /-- a decision -/
  | debug
  /-- a detail -/
  | trace
  deriving Repr, DecidableEq

namespace Level

/-- How far down a level is, from one. -/
def rank : Level → Nat
  | .error => 1
  | .warn => 2
  | .info => 3
  | .debug => 4
  | .trace => 5

/-- The name of a level in small letters. -/
def name : Level → String
  | .error => "error"
  | .warn => "warn"
  | .info => "info"
  | .debug => "debug"
  | .trace => "trace"

/-- The label of a level, five places wide. -/
def label : Level → String
  | .error => "ERROR"
  | .warn => " WARN"
  | .info => " INFO"
  | .debug => "DEBUG"
  | .trace => "TRACE"

end Level

/-- The value of a field. -/
inductive Value where
  /-- a name or path, shown bare -/
  | bare (s : String)
  /-- a text, shown in quotes -/
  | text (s : String)
  /-- a number -/
  | number (n : Nat)
  /-- a truth value -/
  | bool (b : Bool)
  deriving Repr, DecidableEq

/-- The value as it is shown. -/
def Value.show : Value → String
  | .bare s => s
  | .text s => Text.quote s
  | .number n => Text.showNat n
  | .bool b => if b then "true" else "false"

/-- The JSON form of a value. -/
def Value.toJson : Value → Json
  | .bare s => .string s
  | .text s => .string s
  | .number n => .number (Text.showNat n)
  | .bool b => .bool b

/-- The named values of an event or span. -/
abbrev Fields := List (String × Value)

/-- Fields with blanks between them. -/
def Fields.show (fs : Fields) : String :=
  " ".intercalate (fs.map fun (name, v) => name ++ "=" ++ v.show)

/-- An activity that events stand in. Activities matter as summaries do. -/
structure Span where
  /-- the part of the program -/
  target : String
  /-- the name of the activity -/
  name : String
  /-- its fields -/
  fields : Fields
  deriving Repr, DecidableEq

/-- Something that a run reports. -/
structure Event where
  /-- how much it matters -/
  level : Level
  /-- the part of the program -/
  target : String
  /-- what is reported -/
  message : String
  /-- its fields -/
  fields : Fields
  /-- the activities going on, the outermost first -/
  spans : List Span
  deriving Repr, DecidableEq

/-- The event inside one more activity around all others. -/
def Event.within (s : Span) (e : Event) : Event := { e with spans := s :: e.spans }

/-- How events are written on lines. -/
inductive Format where
  /-- spans with their fields before the message -/
  | pretty
  /-- names of spans before the message, their fields after all else -/
  | compact
  /-- a JSON object -/
  | json
  deriving Repr, DecidableEq

/-- The span as it stands before a message. -/
def Span.show (s : Span) : String :=
  s.name ++ (if s.fields.isEmpty then "" else "\x7b" ++ s.fields.show ++ "\x7d") ++ ":"

/-- The message with the fields after it. -/
def Event.body (e : Event) : String :=
  e.message ++ if e.fields.isEmpty then "" else " " ++ e.fields.show

/-- The JSON form of a span. -/
def Span.toJson (s : Span) : Json :=
  .object (s.fields.map (fun (name, v) => (name, v.toJson)) ++ [("name", .string s.name)])

/-- The line of an event, without its end. -/
def Event.line (format : Format) (e : Event) : String :=
  let gap := if e.spans.isEmpty then "" else " "
  match format with
  | .pretty => e.level.label ++ " " ++ String.join (e.spans.map Span.show) ++ gap ++ e.body
  | .compact =>
    e.level.label ++ " " ++ String.join (e.spans.map (·.name ++ ":")) ++ gap ++ e.body ++
      String.join (e.spans.map fun s => if s.fields.isEmpty then "" else " " ++ s.fields.show)
  | .json =>
    Json.compact (.object [
      ("level", .string (Text.trimmed e.level.label)),
      ("fields", .object (("message", .string e.message) ::
        e.fields.map fun (name, v) => (name, v.toJson))),
      ("spans", .array (e.spans.map Span.toJson))])

end FighterCheck.Log
