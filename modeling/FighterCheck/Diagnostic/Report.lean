import FighterCheck.Diagnostic.Severity

/-!
# Reports of findings

A diagnostic is a finding with its severity and the key of the file it was found in. A report lists
diagnostics in the order in which they were found, and can be counted and filtered by severity.
-/

namespace FighterCheck

/-- A finding. -/
structure Diagnostic where
  /-- what was found -/
  message : String
  /-- how much it matters -/
  severity : Severity
  /-- the key of the file it was found in, if it concerns one -/
  file : Option String
  deriving Repr, DecidableEq

namespace Diagnostic

/-- The finding on one line: its severity in brackets, and what was found. -/
def text (d : Diagnostic) : String := "[" ++ d.severity.label ++ "] " ++ d.message

/-- The JSON form; a finding that concerns no file has no member for it. -/
def toJson (d : Diagnostic) : Json :=
  .object (("message", .string d.message) :: ("severity", d.severity.toJson) ::
    match d.file with
    | some f => [("file", .string f)]
    | none => [])

/-- The finding that a JSON value stands for. The file may be missing or null. -/
def ofJson? (v : Json) : Option Diagnostic :=
  match v.fields? ["message", "severity", "file"] with
  | some [some message, some severity, file] => do
    let file ← match file with
      | none => some none
      | some .null => some none
      | some f => f.string?.map some
    pure ⟨← message.string?, ← Severity.ofJson? severity, file⟩
  | _ => none

end Diagnostic

/-- Findings, in the order in which they were found. -/
structure Report where
  /-- the findings -/
  diagnostics : List Diagnostic
  deriving Repr, DecidableEq

namespace Report

/-- The report without findings. -/
def empty : Report := ⟨[]⟩

/-- The report with further findings at its end. -/
def append (r : Report) (ds : List Diagnostic) : Report := ⟨r.diagnostics ++ ds⟩

/-- How many findings there are. -/
def size (r : Report) : Nat := r.diagnostics.length

/-- How many findings have that severity. -/
def count (r : Report) (s : Severity) : Nat := r.diagnostics.countP (·.severity == s)

/-- The findings that matter at least so much, in order. -/
def atLeast (r : Report) (s : Severity) : List Diagnostic :=
  r.diagnostics.filter (·.severity.atLeast s)

/-- There is an error among the findings. -/
def hasErrors (r : Report) : Bool := 0 < r.count .error

/-- The JSON form: a list. -/
def toJson (r : Report) : Json := .array (r.diagnostics.map Diagnostic.toJson)

/-- The report that a JSON value stands for. -/
def ofJson? (v : Json) : Option Report := (v.list? Diagnostic.ofJson?).map Report.mk

end Report

end FighterCheck
