import FighterCheck.Proofs.Character.Reached
import FighterCheck.Proofs.Character.Reading
import FighterCheck.Proofs.State.Scan

/-!
# Checks one after another

An editor checks a character again and again while its files change. Each of these checks replaces the
results or leaves them as they are, and nothing of the results before, nor of a check that broke off,
is in what it yields.

What a check may yield is said by a relation, `Results.Built`, which goes through the files in order and
takes each as missing or as a document; there is no such way past a file that breaks the check. The
function that checks follows it in both directions (`Results.run_eq_ok_iff`, `Results.run_eq_error_iff`).
A check in place (`recheck`) is a program on the character that may fail in its midst; that a failure
leaves the character as it was is therefore a matter of what has been changed by then. A history of
checks is a run of that program on one tree and catalog after the other (`recheckAll`).
-/

namespace FighterCheck.Character

open Files (Tree)
open Ini (Document SourceFile)
open Schema (Catalog)
open State (FileContext)

variable {t : Tree} {c : Catalog}

/-! ## What a check may yield -/

namespace Results

/-- **The results that files build up**, each of them missing or holding a document. -/
inductive Built (t : Tree) (c : Catalog) :
    Results → List (SourceFile × FileContext) → Results → Prop
  /-- no file is left -/
  | nil (r : Results) : Built t c r [] r
  /-- the next file is missing, which leaves a warning and no index -/
  | missing {r r' : Results} {f : SourceFile} {file : FileContext}
      {xs : List (SourceFile × FileContext)} (hf : IsMissing t f)
      (hrest : Built t c (r.withMissing f) xs r') : Built t c r ((f, file) :: xs) r'
  /-- the next file holds a document, which is validated -/
  | document {r r' : Results} {f : SourceFile} {file : FileContext}
      {xs : List (SourceFile × FileContext)} {d : Document} (hf : Holds t f d)
      (hrest : Built t c (r.withDocument c f file d) xs r') : Built t c r ((f, file) :: xs) r'

/-- The first of some files that breaks a check, with its error. -/
def FirstBreak (t : Tree) (xs : List (SourceFile × FileContext)) (e : Ini.Error) : Prop :=
  ∃ before x after, xs = before ++ x :: after ∧ (∀ y ∈ before, ∀ e', ¬ Breaks t y.1 e') ∧
    Breaks t x.1 e

variable {r r' : Results} {f : SourceFile} {file : FileContext}
  {xs : List (SourceFile × FileContext)} {e : Ini.Error}

theorem not_firstBreak_nil : ¬ FirstBreak t [] e := by
  rintro ⟨before, x, after, h, _⟩
  exact List.append_ne_nil_of_right_ne_nil before (List.cons_ne_nil x after) h.symm

theorem firstBreak_cons_of_breaks {e' : Ini.Error} (hf : Breaks t f e') :
    FirstBreak t ((f, file) :: xs) e ↔ e' = e := by
  constructor
  · rintro ⟨before, x, after, hsplit, hbefore, hx⟩
    cases before with
    | nil =>
      obtain ⟨rfl, _⟩ := List.cons.inj hsplit
      exact hf.unique hx
    | cons y before =>
      obtain ⟨rfl, _⟩ := List.cons.inj hsplit
      exact absurd hf (hbefore _ List.mem_cons_self e')
  · rintro rfl
    exact ⟨[], (f, file), xs, rfl, fun y hy => absurd hy List.not_mem_nil, hf⟩

theorem firstBreak_cons_of_not_breaks (hf : ∀ e', ¬ Breaks t f e') :
    FirstBreak t ((f, file) :: xs) e ↔ FirstBreak t xs e := by
  constructor
  · rintro ⟨before, x, after, hsplit, hbefore, hx⟩
    cases before with
    | nil =>
      obtain ⟨rfl, _⟩ := List.cons.inj hsplit
      exact absurd hx (hf e)
    | cons y before =>
      obtain ⟨_, rfl⟩ := List.cons.inj hsplit
      exact ⟨before, x, after, rfl, fun y hy => hbefore y (List.mem_cons_of_mem _ hy), hx⟩
  · rintro ⟨before, x, after, rfl, hbefore, hx⟩
    refine ⟨(f, file) :: before, x, after, rfl, fun y hy => ?_, hx⟩
    rcases List.mem_cons.mp hy with rfl | hy
    · exact hf
    · exact hbefore y hy

/-- A check that goes on after a file goes on as the check of the rest. -/
theorem run_cons_of_step_ok (h : r.step t c f file = .ok r') :
    r.run t c ((f, file) :: xs) = r'.run t c xs := by
  rw [Results.run, h]

theorem run_cons_of_step_error {err : Error} (h : r.step t c f file = .error err) :
    r.run t c ((f, file) :: xs) = .error err := by
  rw [Results.run, h]

/-- **A check that ends has built up its results**, and the other way round. -/
theorem run_eq_ok_iff : r.run t c xs = .ok r' ↔ Built t c r xs r' := by
  constructor
  · intro h
    induction xs generalizing r with
    | nil =>
      rw [← Except.ok.inj h]
      exact .nil r
    | cons x xs ih =>
      obtain ⟨f, file⟩ := x
      rcases reading_cases t f with hf | ⟨d, hf⟩ | ⟨e, hf⟩
      · rw [run_cons_of_step_ok (step_of_isMissing hf)] at h
        exact .missing hf (ih h)
      · rw [run_cons_of_step_ok (step_of_holds hf)] at h
        exact .document hf (ih h)
      · rw [run_cons_of_step_error (step_of_breaks hf)] at h
        exact nomatch h
  · intro h
    induction h with
    | nil r => rfl
    | missing hf _ ih => rw [run_cons_of_step_ok (step_of_isMissing hf), ih]
    | document hf _ ih => rw [run_cons_of_step_ok (step_of_holds hf), ih]

/-- **A check fails with the error of the first file that breaks it.** -/
theorem run_eq_error_iff {err : Error} :
    r.run t c xs = .error err ↔ ∃ e, FirstBreak t xs e ∧ err = .ini e := by
  induction xs generalizing r with
  | nil =>
    constructor
    · intro h
      exact nomatch h
    · rintro ⟨e, he, _⟩
      exact absurd he not_firstBreak_nil
  | cons x xs ih =>
    obtain ⟨f, file⟩ := x
    rcases reading_cases t f with hf | ⟨d, hf⟩ | ⟨e', hf⟩
    · have hnot : ∀ e', ¬ Breaks t f e' := fun e' he' => he'.not_isMissing hf
      rw [run_cons_of_step_ok (step_of_isMissing hf), ih]
      simp only [firstBreak_cons_of_not_breaks hnot]
    · have hnot : ∀ e', ¬ Breaks t f e' := fun e' he' => he'.not_holds hf
      rw [run_cons_of_step_ok (step_of_holds hf), ih]
      simp only [firstBreak_cons_of_not_breaks hnot]
    · rw [run_cons_of_step_error (step_of_breaks hf)]
      simp only [firstBreak_cons_of_breaks hf, exists_eq_left', Except.error.injEq, eq_comm]

/-- A check fails if and only if some file breaks it. -/
theorem exists_firstBreak_iff : (∃ e, FirstBreak t xs e) ↔ ∃ x ∈ xs, ∃ e, Breaks t x.1 e := by
  constructor
  · rintro ⟨e, before, x, after, rfl, _, hx⟩
    exact ⟨x, List.mem_append_right _ List.mem_cons_self, e, hx⟩
  · rintro ⟨x, hx, e, hbreaks⟩
    induction xs with
    | nil => exact absurd hx List.not_mem_nil
    | cons y ys ih =>
      by_cases hy : ∃ e', Breaks t y.1 e'
      · obtain ⟨e', he'⟩ := hy
        exact ⟨e', (firstBreak_cons_of_breaks he').mpr rfl⟩
      · have hnot : ∀ e', ¬ Breaks t y.1 e' := fun e' he' => hy ⟨e', he'⟩
        rcases List.mem_cons.mp hx with rfl | hx
        · exact absurd hbreaks (hnot e)
        · obtain ⟨e', he'⟩ := ih hx
          exact ⟨e', (firstBreak_cons_of_not_breaks hnot).mpr he'⟩

end Results

/-! ## Checks in place -/

/-- Checks the state files in place. What has been changed when it fails stays changed. -/
def recheck (t : Tree) (c : Catalog) : StateM Character (Except Error Unit) := do
  let p ← get
  match Results.empty.run t c p.checked with
  | .ok r =>
    set (p.withResults r)
    pure (.ok ())
  | .error e => pure (.error e)

/-- The answer of a check in place. -/
def verdict (p : Character) (t : Tree) (c : Catalog) : Except Error Unit := ((recheck t c).run p).1

/-- The character after a check in place. -/
def rechecked (p : Character) (t : Tree) (c : Catalog) : Character := ((recheck t c).run p).2

/-- The character after checks in place one after another, of changing trees by changing rules. -/
def recheckedAll (p : Character) (xs : List (Tree × Catalog)) : Character :=
  xs.foldl (fun q x => q.rechecked x.1 x.2) p

variable {p : Character} {r : Results} {err : Error}

/-- **A check in place goes as the check of the files does**, and only its end changes the character. -/
theorem run_recheck (p : Character) (t : Tree) (c : Catalog) :
    (recheck t c).run p = match Results.empty.run t c p.checked with
      | .ok r => (.ok (), p.withResults r)
      | .error e => (.error e, p) := by
  show (match Results.empty.run t c p.checked with
    | .ok r => _
    | .error e => _ : StateM Character (Except Error Unit)) p = _
  cases Results.empty.run t c p.checked with
  | ok r => rfl
  | error e => rfl

theorem verdict_eq (p : Character) (t : Tree) (c : Catalog) :
    p.verdict t c = (Results.empty.run t c p.checked).map fun _ => () := by
  rw [verdict, run_recheck]
  cases Results.empty.run t c p.checked with
  | ok r => rfl
  | error e => rfl

/-- **A check in place answers as the check does.** -/
theorem validate_eq_ok_iff {q : Character} :
    p.validate t c = .ok q ↔ p.verdict t c = .ok () ∧ p.rechecked t c = q := by
  rw [validate_eq, verdict_eq, rechecked, run_recheck]
  cases Results.empty.run t c p.checked with
  | ok r => simp [Except.map]
  | error e => simp [Except.map]

theorem validate_eq_error_iff : p.validate t c = .error err ↔ p.verdict t c = .error err := by
  rw [validate_eq, verdict_eq]
  cases Results.empty.run t c p.checked with
  | ok r => simp [Except.map]
  | error e => simp [Except.map]

theorem verdict_eq_ok_iff :
    p.verdict t c = .ok () ↔ ∃ r, Results.Built t c .empty p.checked r := by
  simp only [verdict_eq, ← Results.run_eq_ok_iff]
  cases Results.empty.run t c p.checked with
  | ok r => simp [Except.map]
  | error e => simp [Except.map]

/-- **A check in place fails with the error of the first file that breaks it.** -/
theorem verdict_eq_error_iff :
    p.verdict t c = .error err ↔ ∃ e, Results.FirstBreak t p.checked e ∧ err = .ini e := by
  rw [verdict_eq, ← Results.run_eq_error_iff (c := c) (r := .empty)]
  cases Results.empty.run t c p.checked with
  | ok r => simp [Except.map]
  | error e => simp [Except.map]

theorem rechecked_of_built (h : Results.Built t c .empty p.checked r) :
    p.rechecked t c = p.withResults r := by
  rw [rechecked, run_recheck, Results.run_eq_ok_iff.mpr h]

/-- **A failure changes nothing.** -/
theorem rechecked_of_error (h : p.verdict t c = .error err) : p.rechecked t c = p := by
  obtain ⟨e, he⟩ := verdict_eq_error_iff.mp h
  rw [rechecked, run_recheck, Results.run_eq_error_iff.mpr ⟨e, he⟩]

/-! ## Histories of checks -/

/-- Whether a check ends does not depend on the results before it. -/
theorem verdict_withResults (p : Character) (r : Results) :
    (p.withResults r).verdict t c = p.verdict t c := by
  rw [verdict_eq, verdict_eq, checked_withResults]

/-- **A check that ends does not depend on the results before it.** -/
theorem rechecked_withResults (h : p.verdict t c = .ok ()) (r : Results) :
    (p.withResults r).rechecked t c = p.rechecked t c := by
  obtain ⟨r', hr'⟩ := verdict_eq_ok_iff.mp h
  rw [rechecked_of_built hr', rechecked_of_built (p := p.withResults r) hr',
    withResults_withResults]

/-- A check in place changes the results at most. -/
theorem exists_rechecked (p : Character) (t : Tree) (c : Catalog) :
    ∃ r, p.rechecked t c = p.withResults r := by
  cases h : p.verdict t c with
  | ok u =>
    obtain ⟨r, hr⟩ := verdict_eq_ok_iff.mp h
    exact ⟨r, rechecked_of_built hr⟩
  | error err => exact ⟨p.results, rechecked_of_error h⟩

theorem exists_recheckedAll (p : Character) (xs : List (Tree × Catalog)) :
    ∃ r, p.recheckedAll xs = p.withResults r := by
  induction xs generalizing p with
  | nil => exact ⟨p.results, rfl⟩
  | cons x xs ih =>
    obtain ⟨r, hr⟩ := exists_rechecked p x.1 x.2
    obtain ⟨r', hr'⟩ := ih (p.rechecked x.1 x.2)
    refine ⟨r', hr'.trans ?_⟩
    rw [hr, withResults_withResults]

/-- Checks that all fail change nothing. -/
theorem recheckedAll_of_errors {xs : List (Tree × Catalog)}
    (h : ∀ x ∈ xs, p.verdict x.1 x.2 ≠ .ok ()) : p.recheckedAll xs = p := by
  induction xs with
  | nil => rfl
  | cons x xs ih =>
    have hx : p.rechecked x.1 x.2 = p := by
      cases hv : p.verdict x.1 x.2 with
      | ok u => exact absurd hv (h x List.mem_cons_self)
      | error err => exact rechecked_of_error hv
    show (p.rechecked x.1 x.2).recheckedAll xs = p
    rw [hx]
    exact ih fun y hy => h y (List.mem_cons_of_mem x hy)

/-- **After any history, the results are those of the last check that ended.** -/
theorem recheckedAll_of_last {earlier later : List (Tree × Catalog)} {x : Tree × Catalog}
    (hx : p.verdict x.1 x.2 = .ok ()) (hlater : ∀ y ∈ later, p.verdict y.1 y.2 ≠ .ok ()) :
    p.recheckedAll (earlier ++ x :: later) = p.rechecked x.1 x.2 := by
  obtain ⟨r, hr⟩ := exists_recheckedAll p earlier
  obtain ⟨r', hr'⟩ := exists_rechecked p x.1 x.2
  have hstep : p.recheckedAll (earlier ++ x :: later) =
      ((p.recheckedAll earlier).rechecked x.1 x.2).recheckedAll later := by
    rw [recheckedAll, List.foldl_append]
    rfl
  rw [hstep, hr, rechecked_withResults hx]
  refine recheckedAll_of_errors fun y hy => ?_
  rw [hr', verdict_withResults]
  exact hlater y hy

/-- A character with a state file and a common file. -/
def beforeEdit : Tree :=
  [("k.def", "[Files]\nst = a\nstcommon = c"), ("a", "[Statedef 5]"), ("c", "[Statedef 6]")].foldl
    (fun t file => t.putFile file.1 (Encoding.TextEncoding.plain.encode file.2.toList)) .empty

/-- The state file is gone, and a header of the common file is not closed. -/
def afterEdit : Tree :=
  Tree.empty.putFile "c" (Encoding.TextEncoding.plain.encode "\n[Statedef 6".toList)

end FighterCheck.Character
