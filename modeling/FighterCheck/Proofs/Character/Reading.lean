import FighterCheck.Character.Basic

/-!
# What reading a state file comes to

Of a state file there is nothing, or it holds a document, or it breaks the check: something is there
that cannot be read, or is read and has a header that is not closed. Exactly one of the three is the
case (`reading_cases`, `Breaks.unique`), and each is said here by what the tree has at the path of the
file, apart from the function that reads it. One step of a check follows the same distinction: the
missing file leaves a warning, the document is validated, and the break ends the check. A whole check
is the run of these steps, whose results the character takes over.
-/

namespace FighterCheck.Character

open Files (Content Tree)
open Ini (Document SourceFile)
open Schema (Catalog)
open State (FileContext)

variable {t : Tree} {c : Catalog} {f : SourceFile} {d : Document} {e : Ini.Error}

/-! ## The three cases -/

/-- The text that octets stand for, in the encoding they are found to be in. -/
def decodedText (octets : List UInt8) : String :=
  String.ofList (Encoding.TextEncoding.decode octets).1

/-- Nothing stands at the path of the file. -/
def IsMissing (t : Tree) (f : SourceFile) : Prop := t.read f.path = .error .notFound

/-- The file can be read, and its text is that of the document. -/
def Holds (t : Tree) (f : SourceFile) (d : Document) : Prop :=
  ∃ octets, t.read f.path = .ok octets ∧ Document.read (decodedText octets) = .ok d

/-- The file ends a check with the error. -/
inductive Breaks (t : Tree) (f : SourceFile) : Ini.Error → Prop
  /-- it cannot be read, and not because it is missing -/
  | unreadable {fault : Files.Fault} (hread : t.read f.path = .error fault)
      (hfault : fault ≠ .notFound) : Breaks t f (.unreadable f.path fault)
  /-- it can be read, but a header in it is not closed -/
  | malformed {octets : List UInt8} {header : Ini.UnclosedHeader}
      (hread : t.read f.path = .ok octets)
      (hdoc : Document.read (decodedText octets) = .error header) :
      Breaks t f (.malformedHeader f.path header)

/-- **A file is missing, holds a document, or breaks a check.** -/
theorem reading_cases (t : Tree) (f : SourceFile) :
    IsMissing t f ∨ (∃ d, Holds t f d) ∨ ∃ e, Breaks t f e := by
  cases hread : t.read f.path with
  | error fault =>
    by_cases hfault : fault = .notFound
    · exact Or.inl (hread.trans (congrArg _ hfault))
    · exact Or.inr (Or.inr ⟨_, .unreadable hread hfault⟩)
  | ok octets =>
    cases hdoc : Document.read (decodedText octets) with
    | ok d => exact Or.inr (Or.inl ⟨d, octets, hread, hdoc⟩)
    | error header => exact Or.inr (Or.inr ⟨_, .malformed hread hdoc⟩)

/-- **What stands at the path and cannot be opened as a file breaks a check**: a directory, or a file that
the system refuses to open. -/
theorem exists_breaks_of_lookup {content : Content} (h : t.lookup f.path = .ok content)
    (hfile : ∀ octets, content ≠ .file octets) :
    ∃ fault, Breaks t f (.unreadable f.path fault) := by
  cases content with
  | file octets => exact absurd rfl (hfile octets)
  | barred reason => exact ⟨.refused reason, .unreadable (by rw [Tree.read, h]) Files.Fault.noConfusion⟩
  | directory => exact ⟨.isDirectory, .unreadable (by rw [Tree.read, h]) Files.Fault.noConfusion⟩

example : (Tree.empty.putBarred "a" .denied).read "a" = .error (.refused .denied) := rfl

/-! ## Reading -/

theorem parse_of_isMissing (h : IsMissing t f) : f.parse t = .error (.fileNotFound f.path) := by
  rw [SourceFile.parse, SourceFile.readRaw, h]
  rfl

theorem parse_of_holds (h : Holds t f d) : f.parse t = .ok d := by
  obtain ⟨octets, hread, hdoc⟩ := h
  rw [SourceFile.parse, SourceFile.readRaw, hread]
  unfold decodedText at hdoc
  dsimp only
  rw [SourceFile.parseText, hdoc]

theorem parse_of_breaks (h : Breaks t f e) : f.parse t = .error e := by
  cases h with
  | unreadable hread hfault =>
    rw [SourceFile.parse, SourceFile.readRaw, hread]
    dsimp only
    rw [Ini.Error.ofReadFault]
    exact hfault
  | malformed hread hdoc =>
    rw [SourceFile.parse, SourceFile.readRaw, hread]
    unfold decodedText at hdoc
    dsimp only
    rw [SourceFile.parseText, hdoc]

theorem Breaks.ne_fileNotFound (h : Breaks t f e) (path : String) : e ≠ .fileNotFound path := by
  cases h with
  | unreadable _ _ => exact Ini.Error.noConfusion
  | malformed _ _ => exact Ini.Error.noConfusion

/-- A file breaks a check in one way only. -/
theorem Breaks.unique {e' : Ini.Error} (h : Breaks t f e) (h' : Breaks t f e') : e = e' :=
  Except.error.inj ((parse_of_breaks h).symm.trans (parse_of_breaks h'))

theorem Breaks.not_isMissing (h : Breaks t f e) : ¬ IsMissing t f := fun hmissing =>
  h.ne_fileNotFound f.path (Except.error.inj ((parse_of_breaks h).symm.trans
    (parse_of_isMissing hmissing)))

theorem Breaks.not_holds (h : Breaks t f e) : ¬ Holds t f d := fun hd =>
  nomatch (parse_of_breaks h).symm.trans (parse_of_holds hd)

theorem Holds.unique {d' : Document} (h : Holds t f d) (h' : Holds t f d') : d = d' :=
  Except.ok.inj ((parse_of_holds h).symm.trans (parse_of_holds h'))

theorem Holds.not_isMissing (h : Holds t f d) : ¬ IsMissing t f := fun hmissing =>
  nomatch (parse_of_holds h).symm.trans (parse_of_isMissing hmissing)

/-! ## One file of a check -/

namespace Results

/-- The results after a file that is missing: all that is new is a warning that says so. -/
def withMissing (r : Results) (f : SourceFile) : Results :=
  let warning := "State file " ++ f.key ++ " not found at " ++ f.path ++ "!"
  { r with report := r.report.append [⟨warning, .warning, some f.key⟩] }

/-- The results after a file that holds the document. -/
def withDocument (c : Catalog) (r : Results) (f : SourceFile) (file : FileContext) (d : Document) :
    Results :=
  let o := State.validate c file r.owners d
  ⟨o.owners, r.locators.put f.key o.index, r.report.append o.findings⟩

variable {r : Results} {file : FileContext}

theorem step_of_isMissing (h : IsMissing t f) : r.step t c f file = .ok (r.withMissing f) := by
  rw [step, parse_of_isMissing h]
  rfl

theorem step_of_holds (h : Holds t f d) :
    r.step t c f file = .ok (r.withDocument c f file d) := by
  rw [step, parse_of_holds h]
  rfl

theorem step_of_breaks (h : Breaks t f e) : r.step t c f file = .error (.ini e) := by
  rw [step, parse_of_breaks h]
  cases h with
  | unreadable _ _ => rfl
  | malformed _ _ => rfl

end Results

/-! ## A whole check -/

/-- The character with other results. -/
def withResults (p : Character) (r : Results) : Character := { p with results := r }

@[simp] theorem checked_withResults (p : Character) (r : Results) :
    (p.withResults r).checked = p.checked := rfl

@[simp] theorem withResults_withResults (p : Character) (r r' : Results) :
    (p.withResults r).withResults r' = p.withResults r' := rfl

/-- A check changes the results alone. -/
theorem validate_eq (p : Character) (t : Tree) (c : Catalog) :
    p.validate t c = (Results.empty.run t c p.checked).map p.withResults := by
  rw [validate]
  cases Results.empty.run t c p.checked with
  | ok r => rfl
  | error e => rfl

end FighterCheck.Character
