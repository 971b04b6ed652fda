import FighterCheck.Ini.Line
import FighterCheck.Text.Lines

/-!
# Reading a document

A text is read line by line. It is unreadable exactly if some header is not closed, and then the first
such header is the fault. Otherwise each header opens a section, which takes the entries up to the next
header; entries before the first header belong to no section.
-/

namespace FighterCheck.Ini

/-- A header that is not closed on its line. -/
structure UnclosedHeader where
  /-- the line, counted from one -/
  line : Nat
  /-- the line's text after the opening bracket -/
  text : String
  deriving Repr, DecidableEq

/-- The first header that is not closed; the first line has the number `number`. -/
def firstUnclosed (number : Nat) : List Line → Option UnclosedHeader
  | [] => none
  | .unclosed text :: _ => some ⟨number, text⟩
  | _ :: ls => firstUnclosed (number + 1) ls

/-- The entries before the first header, and each header's name with the entries that follow it. -/
def blocks : List Line → List Entry × List (String × List Entry)
  | [] => ([], [])
  | .header name :: ls => ([], (name, (blocks ls).1) :: (blocks ls).2)
  | .entry e :: ls => (e :: (blocks ls).1, (blocks ls).2)
  | _ :: ls => blocks ls

/-- Sections of these names and entries, with their positions counted from `position`. -/
def number (position : Nat) : List (String × List Entry) → List Section
  | [] => []
  | (name, entries) :: bs => ⟨name, position, entries⟩ :: number (position + 1) bs

/-- The lines of a text, read one by one. -/
def readLines (text : String) : List Line := (Text.lines text.toList).map Line.read

/-- The document of lines that are all readable. -/
def Document.ofLines (ls : List Line) : Document := ⟨number 0 (blocks ls).2⟩

/-- The document that a text holds. -/
def Document.read (text : String) : Except UnclosedHeader Document :=
  match firstUnclosed 1 (readLines text) with
  | some fault => .error fault
  | none => .ok (.ofLines (readLines text))

/-- A section stands at the position it was numbered with. -/
theorem getElem?_number (position i : Nat) (bs : List (String × List Entry)) :
    (number position bs)[i]? = bs[i]?.map fun b => ⟨b.1, position + i, b.2⟩ := by
  induction bs generalizing position i with
  | nil => simp [number]
  | cons b bs ih =>
    cases i with
    | zero => simp [number]
    | succ i =>
      simp only [number, List.getElem?_cons_succ, ih]
      congr 1
      funext b
      simp only [Section.mk.injEq, true_and, and_true]
      omega

theorem firstUnclosed_eq_none_iff {k : Nat} {ls : List Line} :
    firstUnclosed k ls = none ↔ ∀ text, Line.unclosed text ∉ ls := by
  induction ls generalizing k with
  | nil => simp [firstUnclosed]
  | cons l ls ih =>
    cases l with
    | unclosed text => simpa [firstUnclosed] using ⟨text, fun h => absurd rfl h⟩
    | _ => simp [firstUnclosed, ih]

end FighterCheck.Ini
