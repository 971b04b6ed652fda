import FighterCheck.Registry
import FighterCheck.State.Findings

/-!
# Checking a state file

A file is read once from its first section to its last. Along the way, numbers of definitions are
claimed for the file in a map that all files of a character share, the positions of the definitions
are noted in an index of the file's own, and every state block is checked against the definition that
stands last before it.
-/

namespace FighterCheck.State

open Ini (Document Section)
open Schema (Catalog)

/-- The file that declared each number first. -/
abbrev OwnerMap := Registry Int32 String

/-- The position of the first definition of each number in a file. -/
abbrev PositionIndex := Registry Int32 Nat

/-- What is known after some sections of a file. -/
structure Scan where
  /-- who declared which number -/
  owners : OwnerMap
  /-- where this file declares which number -/
  index : PositionIndex
  /-- the definition that stands last -/
  enclosing : Option Definition
  /-- what has been found, in order -/
  findings : List Diagnostic
  deriving Repr, DecidableEq

namespace Scan

/-- Before the first section of a file. -/
def start (owners : OwnerMap) : Scan := ⟨owners, Registry.empty, none, []⟩

/-- After the header of a definition. -/
def stepStatedef (c : Catalog) (file : FileContext) (st : Scan) (s : Section)
    (h : StatedefHeader) : Scan :=
  let findings := st.findings ++ statedefFindings c file (h.id.bind st.owners.find?) s h
  match h.id with
  | some id =>
    ⟨st.owners.record id file.key, st.index.record id s.position, some ⟨h.id, h.rawId⟩, findings⟩
  | none => ⟨st.owners, st.index, some ⟨h.id, h.rawId⟩, findings⟩

/-- After one more section. -/
def step (c : Catalog) (file : FileContext) (st : Scan) (s : Section) : Scan :=
  match SectionKind.ofName s.name with
  | .statedef h => st.stepStatedef c file s h
  | .state h =>
    { st with
      findings := st.findings ++
        match st.enclosing with
        | some d => stateFindings c file s h d
        | none => strayFindings file s }
  | .other => st

/-- After some more sections. -/
def run (c : Catalog) (file : FileContext) (st : Scan) (ss : List Section) : Scan :=
  ss.foldl (step c file) st

end Scan

/-- What checking a file yields. -/
structure Outcome where
  /-- who declared which number, this file included -/
  owners : OwnerMap
  /-- where this file declares which number -/
  index : PositionIndex
  /-- what was found in this file -/
  findings : List Diagnostic
  deriving Repr, DecidableEq

/-- Checks the document in a file of a character whose other files have claimed `owners`. -/
def validate (c : Catalog) (file : FileContext) (owners : OwnerMap) (d : Document) : Outcome :=
  let st := (Scan.start owners).run c file d.sections
  ⟨st.owners, st.index, st.findings⟩

end FighterCheck.State
