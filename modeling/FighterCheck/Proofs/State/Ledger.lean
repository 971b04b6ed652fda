import FighterCheck.Proofs.State.Findings

/-!
# A run over several files

The files of a character are checked one after another with one map of owners and one report; a
`Ledger` is the two together. The history of a run is summed up by the map: a number is owned by the
first file that declares it (`find?_owners_run`), and this is what the header of a later definition is
told, be it in another file or further down in the same one.

The statements name the sections of a run by what stands before them: a section `s` of the file `file`
is met after the files `before` and the sections `pre`, which is to say after the files
`before ++ [(file, ⟨pre⟩)]`. That list is its history, and `firstFile?` of the history is the file that
the finding names.
-/

namespace FighterCheck.State

open Ini (Document Section)
open Schema (Catalog)

variable {c : Catalog} {file : FileContext}

/-- Who declared which number, and what has been found so far. -/
structure Ledger where
  /-- the file that declared each number first -/
  owners : OwnerMap
  /-- the findings, in order -/
  report : Report
  deriving Repr, DecidableEq

/-- The first of some files that declares a number, by its key. -/
def firstFile? (id : Int32) (xs : List (FileContext × Document)) : Option String :=
  (xs.find? fun x => (declaration? id x.2.sections).isSome).map fun x => x.1.key

theorem firstFile?_nil (id : Int32) : firstFile? id [] = none := rfl

theorem firstFile?_cons (id : Int32) (x : FileContext × Document)
    (xs : List (FileContext × Document)) :
    firstFile? id (x :: xs) =
      ((declaration? id x.2.sections).map fun _ => x.1.key).or (firstFile? id xs) := by
  rw [firstFile?, List.find?_cons]
  cases declaration? id x.2.sections <;> rfl

theorem firstFile?_append (id : Int32) (xs ys : List (FileContext × Document)) :
    firstFile? id (xs ++ ys) = (firstFile? id xs).or (firstFile? id ys) := by
  rw [firstFile?, List.find?_append, Option.map_or]
  rfl

/-- A file is named if and only if some section of the files declares the number. -/
theorem firstFile?_eq_none_iff {id : Int32} {xs : List (FileContext × Document)} :
    firstFile? id xs = none ↔ ∀ x ∈ xs, ∀ s ∈ x.2.sections, declared? s ≠ some id := by
  rw [firstFile?, Option.map_eq_none_iff, List.find?_eq_none]
  refine forall₂_congr fun x _ => ?_
  rw [Option.not_isSome_iff_eq_none, declaration?_eq_none_iff]

namespace Ledger

/-- Before the first file. -/
def empty : Ledger := ⟨.empty, .empty⟩

/-- After one more file. -/
def check (c : Catalog) (l : Ledger) (x : FileContext × Document) : Ledger :=
  let o := validate c x.1 l.owners x.2
  ⟨o.owners, l.report.append o.findings⟩

/-- After some more files. -/
def run (c : Catalog) (l : Ledger) (xs : List (FileContext × Document)) : Ledger :=
  xs.foldl (check c) l

@[simp] theorem run_nil (l : Ledger) : l.run c [] = l := rfl

@[simp] theorem run_cons (l : Ledger) (x : FileContext × Document)
    (xs : List (FileContext × Document)) : l.run c (x :: xs) = (l.check c x).run c xs := rfl

theorem run_append (l : Ledger) (xs ys : List (FileContext × Document)) :
    l.run c (xs ++ ys) = (l.run c xs).run c ys := List.foldl_append

/-! ## Owners -/

theorem find?_owners_check (l : Ledger) (x : FileContext × Document) (id : Int32) :
    (l.check c x).owners.find? id =
      (l.owners.find? id).or ((declaration? id x.2.sections).map fun _ => x.1.key) :=
  find?_owners_validate l.owners x.2 id

/-- An owner stays. -/
theorem find?_owners_check_of_some {l : Ledger} {id : Int32} {key : String}
    (h : l.owners.find? id = some key) (x : FileContext × Document) :
    (l.check c x).owners.find? id = some key := by
  rw [find?_owners_check, h, Option.some_or]

/-- **The owner of a number after a run** is the one before it, or the first file of the run that
declares the number. -/
theorem find?_owners_run (l : Ledger) (xs : List (FileContext × Document)) (id : Int32) :
    (l.run c xs).owners.find? id = (l.owners.find? id).or (firstFile? id xs) := by
  induction xs generalizing l with
  | nil => rw [run_nil, firstFile?_nil, Option.or_none]
  | cons x xs ih => rw [run_cons, ih, find?_owners_check, firstFile?_cons, Option.or_assoc]

/-! ## Findings -/

/-- **A file only adds findings of its own.** -/
theorem exists_report_check (c : Catalog) (l : Ledger) (x : FileContext × Document) :
    ∃ ds, (l.check c x).report.diagnostics = l.report.diagnostics ++ ds ∧
      ∀ d ∈ ds, d.file = some x.1.key := by
  refine ⟨(validate c x.1 l.owners x.2).findings, rfl, fun d hd => ?_⟩
  exact Scan.file_of_mem_findings_run _ _ (fun _ h => absurd h List.not_mem_nil) d hd

theorem exists_report_run (c : Catalog) (l : Ledger) (xs : List (FileContext × Document)) :
    ∃ ds, (l.run c xs).report.diagnostics = l.report.diagnostics ++ ds := by
  induction xs generalizing l with
  | nil => exact ⟨[], (List.append_nil _).symm⟩
  | cons x xs ih =>
    obtain ⟨ds, hds, _⟩ := exists_report_check c l x
    obtain ⟨es, hes⟩ := ih (l.check c x)
    refine ⟨ds ++ es, ?_⟩
    rw [run_cons, hes, hds, List.append_assoc]

/-- What the scan of a file knows when it meets a section, the files `before` having been checked and
the sections `pre` scanned. -/
def scanAt (c : Catalog) (before : List (FileContext × Document)) (file : FileContext)
    (pre : List Section) : Scan :=
  (Scan.start (empty.run c before).owners).run c file pre

/-- **The owner that a section is told** is the first file of its history that declares the number. -/
theorem find?_owners_scanAt (before : List (FileContext × Document)) (pre : List Section)
    (id : Int32) :
    (scanAt c before file pre).owners.find? id =
      firstFile? id (before ++ [(file, ⟨pre⟩)]) := by
  rw [scanAt, Scan.owners_run, find?_recordAll, firstFile?_append, firstFile?_cons, firstFile?_nil,
    Option.or_none]
  show (((empty.run c before).owners.find? id).or _) = _
  rw [find?_owners_run]
  rfl

/-- What is found in a section stands in the report. -/
theorem exists_report_run_middle (c : Catalog) (before : List (FileContext × Document))
    (file : FileContext) (pre : List Section) (s : Section) (post : List Section)
    (after : List (FileContext × Document)) :
    ∃ later, (empty.run c (before ++ (file, ⟨pre ++ s :: post⟩) :: after)).report.diagnostics =
      (empty.run c before).report.diagnostics ++ (scanAt c before file pre).findings ++
        (scanAt c before file pre).found c file s ++ later := by
  obtain ⟨inFile, hfile⟩ := Scan.exists_findings_run_middle c file
    (Scan.start (empty.run c before).owners) pre s post
  obtain ⟨further, hfurther⟩ := exists_report_run c
    ((empty.run c before).check c (file, ⟨pre ++ s :: post⟩)) after
  refine ⟨inFile ++ further, ?_⟩
  rw [run_append, run_cons, hfurther]
  show (empty.run c before).report.diagnostics ++
      ((Scan.start (empty.run c before).owners).run c file (pre ++ s :: post)).findings ++
        further = _
  rw [hfile, scanAt]
  simp only [List.append_assoc]

end Ledger

/-- **The first declaration of a number counts, and the later ones are reported.** After a run from
nothing, each number is owned by the first file that declares it, and by none if no section does. One
file more takes no owner away and adds to the report at its end, under its own key. And of the findings `ds`
that a section adds, those worth knowing at a declaration are exactly one naming the first file of its
history that declares the number, if there is one and the file is not the common one; a section that
declares no number claims none and is never reported. -/
theorem first_declaration_owns_and_repeats_are_reported (c : Catalog) :
    (∀ xs id, (Ledger.empty.run c xs).owners.find? id = firstFile? id xs ∧
      (firstFile? id xs = none ↔ ∀ x ∈ xs, ∀ s ∈ x.2.sections, declared? s ≠ some id)) ∧
    (∀ (l : Ledger) (x : FileContext × Document),
      (∀ id key, l.owners.find? id = some key → (l.check c x).owners.find? id = some key) ∧
      ∃ ds, (l.check c x).report.diagnostics = l.report.diagnostics ++ ds ∧
        ∀ d ∈ ds, d.file = some x.1.key) ∧
    ∀ before file pre s post after,
      ∃ ds later,
        ((Ledger.scanAt c before file pre).step c file s).findings =
          (Ledger.scanAt c before file pre).findings ++ ds ∧
        (Ledger.empty.run c (before ++ (file, ⟨pre ++ s :: post⟩) :: after)).report.diagnostics =
          (Ledger.empty.run c before).report.diagnostics ++
            (Ledger.scanAt c before file pre).findings ++ ds ++ later ∧
        (∀ id, declared? s = some id →
          ds.filter (·.severity == .info) =
            if file.isCommon then []
            else (firstFile? id (before ++ [(file, ⟨pre⟩)])).toList.map (repeatFinding file id)) ∧
        (declared? s = none →
          ((Ledger.scanAt c before file pre).step c file s).owners =
            (Ledger.scanAt c before file pre).owners ∧
          ∀ id owner, repeatFinding file id owner ∉ ds) := by
  refine ⟨fun xs id => ⟨?_, firstFile?_eq_none_iff⟩, fun l x => ⟨fun id key h => ?_, ?_⟩,
    fun before file pre s post after => ?_⟩
  · rw [Ledger.find?_owners_run, Ledger.empty]
    rfl
  · exact Ledger.find?_owners_check_of_some h x
  · exact Ledger.exists_report_check c l x
  · obtain ⟨later, hlater⟩ := Ledger.exists_report_run_middle c before file pre s post after
    refine ⟨(Ledger.scanAt c before file pre).found c file s, later, ?_, hlater, ?_, ?_⟩
    · rw [Scan.step_eq]
    · intro id hid
      rw [Scan.filter_info_found hid, Ledger.find?_owners_scanAt]
    · intro hnone
      refine ⟨?_, Scan.repeatFinding_notMem_found hnone⟩
      rw [Scan.step_eq, recordDeclared_of_none _ _ hnone]

/-- The number 5, written `+5` in a second file, still belongs to the first, and the second header is
told so; a number that cannot be read is not. -/
theorem first_declaration_owns_number_with_sign :
    ((Ledger.empty.check noRules (⟨"st", false⟩, ⟨[⟨"statedef 5", 0, []⟩]⟩)).check noRules
      (⟨"st0", false⟩, ⟨[⟨"statedef +5", 0, []⟩]⟩)).owners.find? 5 = some "st" ∧
    (∃ ds later,
      (Ledger.empty.run noRules [(⟨"st", false⟩, ⟨[⟨"statedef 5", 0, []⟩]⟩),
        (⟨"st0", false⟩, ⟨[⟨"statedef +5", 0, []⟩]⟩)]).report.diagnostics = [] ++ [] ++ ds ++ later ∧
      ds.filter (·.severity == .info) = [repeatFinding ⟨"st0", false⟩ 5 "st"]) ∧
    ∃ ds later,
      (Ledger.empty.run noRules [(⟨"st", false⟩, ⟨[⟨"statedef x", 0, []⟩]⟩)]).report.diagnostics =
        [] ++ [] ++ ds ++ later ∧
      ∀ id owner, repeatFinding ⟨"st", false⟩ id owner ∉ ds := by
  obtain ⟨_, hcheck, hfound⟩ := first_declaration_owns_and_repeats_are_reported noRules
  obtain ⟨ds, later, _, hreport, hinfo, _⟩ := hfound [(⟨"st", false⟩, ⟨[⟨"statedef 5", 0, []⟩]⟩)]
    ⟨"st0", false⟩ [] ⟨"statedef +5", 0, []⟩ [] []
  obtain ⟨es, further, _, hrest, _, hnone⟩ := hfound [] ⟨"st", false⟩ [] ⟨"statedef x", 0, []⟩ [] []
  exact ⟨(hcheck _ _).1 5 "st" (by decide),
    ⟨ds, later, hreport, (hinfo 5 (by decide)).trans (by decide)⟩,
    es, further, hrest, (hnone (by decide)).2⟩

end FighterCheck.State
