import FighterCheck.Json.Record
import FighterCheck.Text.Blank
import FighterCheck.Text.Lowercase

/-!
# Severities

Findings are graded in four steps, from notes for debugging to errors. A severity is read from its
label in any case, a warning also from `warn`.
-/

namespace FighterCheck

/-- How much a finding matters. -/
inductive Severity where
  /-- a note for who looks closer -/
  | debug
  /-- something worth knowing -/
  | info
  /-- something that should be mended -/
  | warning
  /-- something that breaks the character -/
  | error
  deriving Repr, DecidableEq

namespace Severity

/-- All severities in ascending order. -/
def all : List Severity := [.debug, .info, .warning, .error]

/-- The place of a severity among all, from zero. -/
def rank : Severity → Nat
  | .debug => 0
  | .info => 1
  | .warning => 2
  | .error => 3

/-- Whether `s` matters at least as much as `t`. -/
def atLeast (s t : Severity) : Bool := t.rank ≤ s.rank

/-- The name of a severity. -/
def label : Severity → String
  | .debug => "DEBUG"
  | .info => "INFO"
  | .warning => "WARNING"
  | .error => "ERROR"

/-- The severity of that label, read without regard to case and blanks around it. -/
def ofText? (text : String) : Option Severity :=
  match Text.lowercase (Text.trimmed text) with
  | "debug" => some .debug
  | "info" => some .info
  | "warning" => some .warning
  | "warn" => some .warning
  | "error" => some .error
  | _ => none

/-- The wording for a text that names no severity. -/
def unknownMessage (text : String) : String := "unknown severity: " ++ text

/-- The JSON form: the label. -/
def toJson (s : Severity) : Json := .string s.label

/-- The severity of exactly that label. -/
def ofLabel? (label : String) : Option Severity := all.find? (·.label == label)

/-- The severity that a JSON value stands for. -/
def ofJson? (v : Json) : Option Severity := v.variant?.bind ofLabel?

theorem ofLabel?_label (s : Severity) : ofLabel? s.label = some s := by
  cases s <;> decide

theorem ofJson?_toJson (s : Severity) : ofJson? s.toJson = some s := ofLabel?_label s

end Severity

end FighterCheck
