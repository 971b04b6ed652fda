import FighterCheck.Proofs.Character.Reading
import FighterCheck.Proofs.State.Flaws

/-!
# Checks without an error

A check comes out clean if it ends and no finding is an error. As the finding that a file is missing is
none, and as errors come from flaws of the documents read, this is a condition on each file by itself:
it is missing, or it holds a document without a flaw (`IsSound`).
-/

namespace FighterCheck.Character

open Files (Tree)
open Ini (Document SourceFile)
open Schema (Catalog)
open State (FileContext HasError HasFlaw)

variable {t : Tree} {c : Catalog} {f : SourceFile} {file : FileContext}

/-- The file is missing, or it holds a document without a flaw. -/
def IsSound (t : Tree) (c : Catalog) (f : SourceFile) : Prop :=
  IsMissing t f ∨ ∃ d, Holds t f d ∧ ¬ HasFlaw c d

/-- A report has errors if some finding in it is one. -/
theorem hasErrors_iff {r : Report} : r.hasErrors = true ↔ HasError r.diagnostics := by
  rw [Report.hasErrors, decide_eq_true_iff, Report.count, List.countP_pos_iff]
  simp only [HasError, beq_iff_eq]

theorem hasErrors_append_eq_false_iff {r : Report} {ds : List Diagnostic} :
    (r.append ds).hasErrors = false ↔ r.hasErrors = false ∧ ¬ HasError ds := by
  rw [← Bool.not_eq_true, ← Bool.not_eq_true, hasErrors_iff, hasErrors_iff, ← not_or]
  exact not_congr State.hasError_append

namespace Results

variable {r r' : Results}

/-- The check has ended without an error. -/
def EndsClean (x : Except Error Results) : Prop := ∃ r, x = .ok r ∧ r.report.hasErrors = false

theorem endsClean_ok : EndsClean (.ok r) ↔ r.report.hasErrors = false :=
  ⟨fun ⟨_, h, hr⟩ => Except.ok.inj h ▸ hr, fun hr => ⟨r, rfl, hr⟩⟩

theorem not_endsClean_error {e : Error} : ¬ EndsClean (.error e) := fun ⟨_, h, _⟩ => nomatch h

/-- **One more file comes out clean** if all did before it and it is sound. -/
theorem endsClean_step_iff (file : FileContext) :
    EndsClean (r.step t c f file) ↔ r.report.hasErrors = false ∧ IsSound t c f := by
  rcases reading_cases t f with hf | ⟨d, hf⟩ | ⟨e, hf⟩
  · have hmissing : ¬ HasError [missingFinding f f.path] := fun h =>
      Severity.noConfusion (State.hasError_singleton.mp h)
    rw [step_of_isMissing hf, endsClean_ok, withMissing, hasErrors_append_eq_false_iff]
    exact and_congr_right fun _ => iff_of_true hmissing (Or.inl hf)
  · rw [step_of_holds hf, endsClean_ok, withDocument, hasErrors_append_eq_false_iff,
      State.hasError_findings_validate_iff]
    refine and_congr_right fun _ => ⟨fun hflaw => Or.inr ⟨d, hf, hflaw⟩, ?_⟩
    rintro (hmissing | ⟨d', hd', hflaw⟩)
    · exact absurd hmissing hf.not_isMissing
    · exact hf.unique hd' ▸ hflaw
  · rw [step_of_breaks hf]
    refine iff_of_false not_endsClean_error ?_
    rintro ⟨_, hmissing | ⟨d, hd, _⟩⟩
    · exact hf.not_isMissing hmissing
    · exact hf.not_holds hd

/-- **A check comes out clean if and only if all files are sound.** -/
theorem endsClean_run_iff {xs : List (SourceFile × FileContext)} :
    EndsClean (r.run t c xs) ↔ r.report.hasErrors = false ∧ ∀ x ∈ xs, IsSound t c x.1 := by
  induction xs generalizing r with
  | nil =>
    rw [show r.run t c [] = .ok r from rfl, endsClean_ok]
    exact (and_iff_left fun x hx => absurd hx List.not_mem_nil).symm
  | cons x xs ih =>
    obtain ⟨f, file⟩ := x
    rw [List.forall_mem_cons, ← and_assoc, ← endsClean_step_iff file, Results.run]
    cases r.step t c f file with
    | ok r' => rw [ih, endsClean_ok]
    | error e => exact iff_of_false not_endsClean_error fun h => not_endsClean_error h.1

end Results

end FighterCheck.Character
