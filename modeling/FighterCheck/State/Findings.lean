import FighterCheck.Diagnostic.Report
import FighterCheck.Ini.Document
import FighterCheck.Schema.Catalog
import FighterCheck.State.Header
import FighterCheck.Text.Quoted

/-!
# What is found in a single section

The findings on a section depend on the rules, on the file it stands in, and on one thing more: for
the header of a definition, who declared its number before; for a state block, the definition around
it. Each list of findings is made of parts, one for each thing that is checked, in a fixed order.
-/

namespace FighterCheck.State

open Ini (Section)
open Schema (Catalog Property findProperty? hasProperty)

/-- The file whose sections are checked. -/
structure FileContext where
  /-- the key of the file -/
  key : String
  /-- the file is the common one, which may declare numbers again -/
  isCommon : Bool
  deriving Repr, DecidableEq

/-- The definition around a state block. -/
structure Definition where
  /-- its number, if what is written is one -/
  id : Option Int32
  /-- its number as written -/
  label : String
  deriving Repr, DecidableEq

/-- A finding in a file. -/
def FileContext.finding (file : FileContext) (severity : Severity) (message : String) :
    Diagnostic :=
  ⟨message, severity, some file.key⟩

/-! ## The header of a definition -/

/-- The number of a definition is none, or another file has declared it. `owner` is the file that
declared it before. -/
def numberFindings (file : FileContext) (owner : Option String) (s : Section)
    (h : StatedefHeader) : List Diagnostic :=
  match h.id, owner with
  | some id, some owner =>
    if file.isCommon then []
    else [file.finding .info ("Statedef " ++ Text.showInt32 id ++ " in file " ++ file.key ++
      " already defined in file " ++ owner ++ "!")]
  | some _, none => []
  | none, _ =>
    [file.finding .warning ("Statedef `" ++ s.name ++ "` in file " ++ file.key ++
      " has invalid statedef number " ++ Text.quote h.rawId ++ "!")]

/-- The beginning of the findings on a definition. -/
def statedefPlace (file : FileContext) (h : StatedefHeader) : String :=
  "Statedef " ++ h.rawId ++ " in file " ++ file.key

/-- Entries that no rule knows. -/
def unknownParameterFindings (rules : List Property) (file : FileContext) (s : Section)
    (h : StatedefHeader) : List Diagnostic :=
  (s.entries.filter fun e => !hasProperty rules e.key).map fun e =>
    file.finding .warning (statedefPlace file h ++ " has invalid parameter " ++ e.key ++ "!")

/-- Parameters that may not be left out and are. -/
def missingParameterFindings (rules : List Property) (file : FileContext) (s : Section)
    (h : StatedefHeader) : List Diagnostic :=
  (rules.filter fun p => !p.optional && !s.hasKey p.name).map fun p =>
    file.finding .warning
      (statedefPlace file h ++ " is missing required parameter " ++ p.name ++ "!")

/-- The value of a parameter of one option is none of its options. -/
def optionFinding? (file : FileContext) (s : Section) (h : StatedefHeader) (p : Property) :
    Option Diagnostic :=
  match s.value? p.name with
  | none => none
  | some v =>
    if p.permits v then none
    else some (file.finding .warning (statedefPlace file h ++ " has invalid option " ++ v ++
      " for property " ++ p.name ++ "!"))

/-- Values that are none of the options of their parameters. -/
def optionFindings (rules : List Property) (file : FileContext) (s : Section)
    (h : StatedefHeader) : List Diagnostic :=
  (rules.filter Property.isSingleChoice).filterMap (optionFinding? file s h)

/-- The findings on the header of a definition. -/
def statedefFindings (c : Catalog) (file : FileContext) (owner : Option String) (s : Section)
    (h : StatedefHeader) : List Diagnostic :=
  numberFindings file owner s h ++
    unknownParameterFindings c.statedef.properties file s h ++
    missingParameterFindings c.statedef.properties file s h ++
    optionFindings c.statedef.properties file s h

/-! ## State blocks -/

/-- A state block before any definition. -/
def strayFindings (file : FileContext) (s : Section) : List Diagnostic :=
  [file.finding .info ("State `" ++ s.name ++ "` found outside of statedef group!")]

/-- The number of a state block does not repeat that of its definition. -/
def numberingFindings (file : FileContext) (s : Section) (h : StateHeader) (d : Definition) :
    List Diagnostic :=
  let wrong := file.finding .debug ("State `" ++ s.name ++
    "` not numbered correctly for statedef group " ++ d.label ++ "!")
  match h.number with
  | .omitted =>
    [file.finding .debug ("State `" ++ s.name ++ "` has number omitted for statedef group " ++
      d.label ++ "!")]
  | .malformed _ => [wrong]
  | .number n => if d.id.any (· ≠ n) then [wrong] else []

/-- The beginning of the graver findings on a state block. -/
def statePlace (s : Section) (d : Definition) : String :=
  "State `" ++ s.name ++ "` in statedef group " ++ d.label

/-- The header lacks its space. -/
def separatorFindings (file : FileContext) (s : Section) (h : StateHeader) (d : Definition) :
    List Diagnostic :=
  if h.hasSeparator then []
  else [file.finding .error (statePlace s d ++ " has no trailing space!")]

/-- The type is that of a controller but none that the rules for state blocks list. -/
def typeFindings (c : Catalog) (file : FileContext) (s : Section) (d : Definition) :
    List Diagnostic :=
  match s.value? "type" with
  | none => []
  | some type =>
    match c.state.property? "type" with
    | none => []
    | some p =>
      if c.isController type && !p.permits type then
        [file.finding .error (statePlace s d ++ " has invalid type " ++ type ++ "!")]
      else []

/-- The key is that of a trigger. -/
def isTrigger (key : String) : Bool := "trigger".toList.isPrefixOf key.toList

/-- The parameters that the controller of a state block takes; none without a known controller. -/
def controllerRules (c : Catalog) (s : Section) : List Property :=
  ((s.value? "type").map c.controllerProperties).getD []

/-- Entries that are no triggers and that neither the rules for state blocks nor those of the
controller know. -/
def stateParameterFindings (c : Catalog) (file : FileContext) (s : Section) (d : Definition) :
    List Diagnostic :=
  (s.entries.filter fun e =>
    !(isTrigger e.key || hasProperty c.state.properties e.key ||
      hasProperty (controllerRules c s) e.key)).map fun e =>
    file.finding .info ("State `" ++ s.name ++ "` with type " ++
      (s.value? "type").getD "(none)" ++ " in statedef group " ++ d.label ++
      " has invalid parameter " ++ e.key ++ "!")

/-- The findings on a state block inside a definition. -/
def stateFindings (c : Catalog) (file : FileContext) (s : Section) (h : StateHeader)
    (d : Definition) : List Diagnostic :=
  numberingFindings file s h d ++ separatorFindings file s h d ++ typeFindings c file s d ++
    stateParameterFindings c file s d

end FighterCheck.State
