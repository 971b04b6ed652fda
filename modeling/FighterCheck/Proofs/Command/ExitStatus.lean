import FighterCheck.Command.Run
import FighterCheck.Proofs.Character.Soundness
import FighterCheck.Proofs.Command.Printing
import Mathlib.Data.List.Nodup

/-!
# The exit status of a check

A run that checks a character ends with the status 0 if all went well and no error was found, and with
1 otherwise. What that means of the files is said without the check: the catalog and the definition can
be loaded, and each state file that is read is missing or holds a document without a flaw. What is to be
shown has no part in it, and shows in what is printed alone.

The files are those of one tree, except that a run with a log file reads in a growing tree: the events
reported so far are in it, and the log may be any of the files read. So the condition names each file
with the tree it is read in (`Request.readings`); without a log file this is one tree throughout.
-/

namespace FighterCheck.Command

open Files (Tree)
open Ini (SourceFile)
open Log (Event)
open Resources (Location)
open Schema (Catalog)
open State (FileContext)
open Character (Results IsSound)

variable {t : Tree} {c : Catalog} {p : Character} {r : Results} {resources : Location}
  {path log : String} {j : Journal}

/-! ## Clean answers -/

/-- The check has ended and no finding is an error. -/
def IsClean (x : Except Error Character) : Prop :=
  ∃ q, x = .ok q ∧ q.results.report.hasErrors = false

theorem isClean_ok : IsClean (.ok p) ↔ p.results.report.hasErrors = false :=
  ⟨fun ⟨_, h, hp⟩ => Except.ok.inj h ▸ hp, fun hp => ⟨p, rfl, hp⟩⟩

theorem not_isClean_error {e : Error} : ¬ IsClean (.error e) := fun ⟨_, h, _⟩ => nomatch h

instance : (x : Except Error Character) → Decidable (IsClean x)
  | .ok _ => decidable_of_iff _ isClean_ok.symm
  | .error _ => .isFalse not_isClean_error

theorem exists_ok_iff {ε ε' α β : Type} {a : α} {b : β} {P : α → β → Prop} :
    (∃ a' b', (.ok a : Except ε α) = .ok a' ∧ (.ok b : Except ε' β) = .ok b' ∧ P a' b') ↔ P a b := by
  simp only [Except.ok.injEq, exists_and_left, exists_eq_left']

/-- The character is clean if its results are. -/
theorem isClean_withResults_iff {x : Except Character.Error Results}
    {f : Character.Error → Error} :
    IsClean ((x.map p.withResults).mapError f) ↔ Results.EndsClean x := by
  cases x with
  | ok r => exact isClean_ok.trans Results.endsClean_ok.symm
  | error e => exact iff_of_false not_isClean_error Results.not_endsClean_error

theorem exit_checkAnswer_ok (least : Severity) (json : Bool) (p : Character) :
    (checkAnswer least json (.ok p)).exit = if p.results.report.hasErrors then 1 else 0 := rfl

/-- **The status is 0 for a clean check and 1 for any other**, whatever is shown of it. -/
theorem exit_checkAnswer (least : Severity) (json : Bool) (x : Except Error Character) :
    (checkAnswer least json x).exit = if IsClean x then 0 else 1 := by
  cases x with
  | ok p =>
    simp only [exit_checkAnswer_ok, isClean_ok]
    cases p.results.report.hasErrors <;> rfl
  | error e => exact (if_neg not_isClean_error).symm

/-! ## Checks in one tree -/

theorem isClean_check_iff :
    IsClean (check t resources path) ↔ ∃ c p, loadCatalog t resources = .ok c ∧
      Character.load t resources path = .ok p ∧ ∀ x ∈ p.checked, IsSound t c x.1 := by
  unfold check
  cases hc : loadCatalog t resources with
  | error e => exact iff_of_false not_isClean_error fun ⟨_, _, h, _⟩ => nomatch h
  | ok c =>
    show IsClean ((Character.resolve t c resources path).mapError _) ↔ _
    unfold Character.resolve
    cases hp : Character.load t resources path with
    | error e => exact iff_of_false not_isClean_error fun ⟨_, _, _, h, _⟩ => nomatch h
    | ok p =>
      show IsClean ((p.validate t c).mapError _) ↔ _
      rw [Character.validate_eq, isClean_withResults_iff, Results.endsClean_run_iff, exists_ok_iff]
      exact and_iff_right rfl

/-! ## Checks in a growing tree -/

namespace Journal

/-- The state files that a check reads, each with the tree as it is by then. -/
def readings (j : Journal) (log : String) (inside : Event → Event) (c : Catalog) :
    Tree → Results → List (SourceFile × FileContext) → List (Tree × SourceFile)
  | _, _, [] => []
  | t, r, (f, file) :: fs =>
    (t, f) :: match r.step t c f file with
      | .ok r' => readings j log inside c (j.report log t ((fileEvents t c r f file).map inside)) r' fs
      | .error _ => []

theorem endsClean_runFiles_iff {inside : Event → Event} {xs : List (SourceFile × FileContext)} :
    Results.EndsClean (j.runFiles log inside c t r xs).2 ↔
      r.report.hasErrors = false ∧ ∀ m ∈ j.readings log inside c t r xs, IsSound m.1 c m.2 := by
  induction xs generalizing t r with
  | nil =>
    rw [runFiles, Results.endsClean_ok]
    exact (and_iff_left fun m hm => absurd hm List.not_mem_nil).symm
  | cons x xs ih =>
    obtain ⟨f, file⟩ := x
    rw [readings, List.forall_mem_cons, ← and_assoc, ← Results.endsClean_step_iff file,
      runFiles]
    cases r.step t c f file with
    | ok r' =>
      dsimp only
      rw [ih, Results.endsClean_ok]
    | error e =>
      exact iff_of_false Results.not_endsClean_error fun h => Results.not_endsClean_error h.1

/-- The tree in which a check reads the definition. -/
def definitionTree (j : Journal) (log : String) (t : Tree) (resources : Location)
    (path : String) : Tree :=
  j.report log t ((catalogEvents t resources.schemaDir).map (Event.within (checkSpan path)))

/-- The tree in which a check reads the first state file. -/
def stateTree (j : Journal) (log : String) (t : Tree) (resources : Location)
    (path : String) : Tree :=
  let loaded := j.definitionTree log t resources path
  j.report log loaded ((loadEvents loaded resources path).map (Event.within (checkSpan path)))

/-- The state files that a check of a character reads, each with the tree as it is by then. -/
def readingsOf (j : Journal) (log : String) (t : Tree) (resources : Location) (path : String)
    (c : Catalog) (p : Character) : List (Tree × SourceFile) :=
  j.readings log (Event.within (checkSpan path) ∘ Event.within (validateSpan p)) c
    (j.stateTree log t resources path) .empty p.checked

theorem isClean_check_iff :
    IsClean (j.check log t resources path).2 ↔ ∃ c p, loadCatalog t resources = .ok c ∧
      Character.load (j.definitionTree log t resources path) resources path = .ok p ∧
      ∀ m ∈ j.readingsOf log t resources path c p, IsSound m.1 c m.2 := by
  unfold check
  cases hc : loadCatalog t resources with
  | error e => exact iff_of_false not_isClean_error fun ⟨_, _, h, _⟩ => nomatch h
  | ok c =>
    dsimp only
    rw [← definitionTree, ← stateTree]
    cases hp : Character.load (j.definitionTree log t resources path) resources path with
    | error e => exact iff_of_false not_isClean_error fun ⟨_, _, _, h, _⟩ => nomatch h
    | ok p =>
      show IsClean ((Except.map p.withResults _).mapError _) ↔ _
      rw [isClean_withResults_iff, endsClean_runFiles_iff, exists_ok_iff]
      exact and_iff_right rfl

end Journal

/-! ## Requests -/

/-- The options without those that concern what is shown of a check. -/
def Given.withoutView (g : Given) : Given := { g with minSeverity := none, json := false }

namespace Request

/-- The tree with which a task begins: the log file, if one is named, is made or found. -/
def opened (q : Request) (t : Tree) : Except Files.Fault Tree :=
  match q.options.logFile with
  | none => .ok t
  | some log => appendText t log ""

/-- The tree in which a check reads the definition, having begun with `t`. -/
def definitionTree (env : Environment) (q : Request) (t : Tree) (path : String) : Tree :=
  match q.options.logFile with
  | none => t
  | some log => (q.journal env).definitionTree log t (q.resources env) path

/-- The state files that a check of a character reads, each with the tree as it is by then. -/
def readings (env : Environment) (q : Request) (t : Tree) (path : String) (c : Catalog)
    (p : Character) : List (Tree × SourceFile) :=
  match q.options.logFile with
  | none => p.checked.map fun x => (t, x.1)
  | some log => (q.journal env).readingsOf log t (q.resources env) path c p

/-- The character that a check yields. -/
def checkedCharacter (env : Environment) (q : Request) (t : Tree) (path : String) :
    Except Error Character :=
  match q.options.logFile with
  | none => Command.check t (q.resources env) path
  | some log => ((q.journal env).check log t (q.resources env) path).2

variable {env : Environment} {q : Request}

/-- **A check comes out clean** if the catalog and the definition can be loaded and every file that is
read is sound. -/
theorem isClean_checkedCharacter_iff :
    IsClean (q.checkedCharacter env t path) ↔
      ∃ c p, loadCatalog t (q.resources env) = .ok c ∧
        Character.load (q.definitionTree env t path) (q.resources env) path = .ok p ∧
        ∀ m ∈ q.readings env t path c p, IsSound m.1 c m.2 := by
  unfold checkedCharacter definitionTree readings
  cases q.options.logFile with
  | none =>
    rw [isClean_check_iff]
    simp only [List.forall_mem_map]
  | some log => exact Journal.isClean_check_iff

/-- What is shown of a check has no part in it. -/
theorem checkedCharacter_of_withoutView {q' : Request}
    (h : q'.options.withoutView = q.options.withoutView) :
    q'.checkedCharacter env t path = q.checkedCharacter env t path := by
  have hview : ∀ q : Request, q.checkedCharacter env t path =
      (⟨q.options.withoutView, q.task⟩ : Request).checkedCharacter env t path := fun _ => rfl
  have htask : ∀ (g : Given) (task task' : Task), (⟨g, task⟩ : Request).checkedCharacter env t path =
      (⟨g, task'⟩ : Request).checkedCharacter env t path := fun _ _ _ => rfl
  rw [hview q', hview q, h, htask]

theorem opened_of_withoutView {q' : Request}
    (h : q'.options.withoutView = q.options.withoutView) : q'.opened t = q.opened t := by
  have hlog : q'.options.withoutView.logFile = q.options.withoutView.logFile := by rw [h]
  unfold opened
  rw [show q'.options.logFile = q.options.logFile from hlog]

end Request

/-- A run that checks a character answers as its check does, once the log is opened. -/
theorem run_of_check (env : Environment) {t t₀ : Tree} {args : List String} {q : Request}
    {least : Severity} {json : Bool} (hread : Request.read args = .ok q)
    (htask : q.task = .check path least json) (hlog : q.opened t = .ok t₀) :
    (run env t args).exit = (checkAnswer least json (q.checkedCharacter env t₀ path)).exit ∧
      (run env t args).stdout =
        (checkAnswer least json (q.checkedCharacter env t₀ path)).output := by
  rw [run, hread]
  dsimp only
  unfold Request.opened at hlog
  unfold Request.run Request.checkedCharacter
  cases hfile : q.options.logFile with
  | none =>
    rw [hfile] at hlog
    obtain rfl := Except.ok.inj hlog
    dsimp only
    rw [Request.runOpenly, htask]
    exact ⟨rfl, rfl⟩
  | some log =>
    rw [hfile] at hlog
    dsimp only at hlog ⊢
    rw [Request.runLogged, hlog, htask]
    exact ⟨rfl, rfl⟩

/-- A character whose state file is missing, and whose common file has a state block without a space, but
ahead of the first definition. -/
def strayTree : Tree :=
  [("r/schema/statedef.xml", "<section name='statedef' type='' comment='true'>"),
    ("r/schema/state.xml", "<section name='state' type='' comment='true'>"),
    ("r/schema/controller.xml", "<controllers>"),
    ("k", "[Files]\nst = b\nstcommon = a"), ("a", "[State5]\n[Statedef 5]")].foldl
    (fun t file => t.putFile file.1 (Encoding.TextEncoding.plain.encode file.2.toList)) .empty

end FighterCheck.Command
