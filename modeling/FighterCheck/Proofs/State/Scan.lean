import FighterCheck.State.Validation

/-!
# A check, section by section

A check keeps four things from one section to the next, and each of them changes on its own: the
owners and the index by the number that a section declares (`declared?`), the enclosing definition by
one that a section opens (`definition?`), and the findings by what is found in the section (`Scan.found`), which are
put at the end and never touched again.

Owners and index are therefore two uses of one fold, `recordAll`, which records a value for every
number declared. What it yields is said by `find?_recordAll`: the value that was there before, or else
that of the first section that declares the number. The owners after a file and the index of a file
(`find?_owners_validate`, `find?_index_validate`) both follow from it, so that a number has an owner if
and only if some section can be found for it.
-/

namespace FighterCheck.State

open Ini (Document Section)
open Schema (Catalog)

/-! ## The number that a section declares -/

/-- The number that a section declares: the one in the header of a definition, if it can be read. -/
def declared? (s : Section) : Option Int32 :=
  match SectionKind.ofName s.name with
  | .statedef h => h.id
  | _ => none

theorem declared?_of_statedef {s : Section} {h : StatedefHeader}
    (hs : SectionKind.ofName s.name = .statedef h) : declared? s = h.id := by
  rw [declared?, hs]

/-- **A section declares a number if and only if it is the header of a definition of it.** -/
theorem declared?_eq_some_iff {s : Section} {id : Int32} :
    declared? s = some id ↔
      ∃ h : StatedefHeader, SectionKind.ofName s.name = .statedef h ∧ h.id = some id := by
  unfold declared?
  cases SectionKind.ofName s.name with
  | statedef h => exact ⟨fun hid => ⟨h, rfl, hid⟩, fun ⟨_, rfl, hid⟩ => hid⟩
  | state h => simp
  | other => simp

/-- The first section that declares a number. -/
def declaration? (id : Int32) (ss : List Section) : Option Section :=
  ss.find? fun s => declared? s == some id

theorem declaration?_nil (id : Int32) : declaration? id [] = none := rfl

theorem declaration?_cons_of_eq {id : Int32} {s : Section} (h : declared? s = some id)
    (ss : List Section) : declaration? id (s :: ss) = some s := by
  rw [declaration?, List.find?_cons, h, beq_self_eq_true]

theorem declaration?_cons_of_ne {id : Int32} {s : Section} (h : declared? s ≠ some id)
    (ss : List Section) : declaration? id (s :: ss) = declaration? id ss := by
  rw [declaration?, List.find?_cons, beq_false_of_ne h, declaration?]

theorem declaration?_eq_none_iff {id : Int32} {ss : List Section} :
    declaration? id ss = none ↔ ∀ s ∈ ss, declared? s ≠ some id := by
  rw [declaration?, List.find?_eq_none]
  simp only [beq_iff_eq, ne_eq]

theorem isSome_declaration?_iff {id : Int32} {ss : List Section} :
    (declaration? id ss).isSome ↔ ∃ s ∈ ss, declared? s = some id := by
  rw [declaration?, List.find?_isSome]
  simp only [beq_iff_eq]

/-! ## The definition that stands last -/

/-- The definition that a section opens. -/
def definition? (s : Section) : Option Definition :=
  match SectionKind.ofName s.name with
  | .statedef h => some ⟨h.id, h.rawId⟩
  | _ => none

/-- The definition that is opened last. -/
def lastDefinition? (ss : List Section) : Option Definition := ss.reverse.findSome? definition?

theorem lastDefinition?_cons (s : Section) (ss : List Section) :
    lastDefinition? (s :: ss) = (lastDefinition? ss).or (definition? s) := by
  rw [lastDefinition?, List.reverse_cons, List.findSome?_append, lastDefinition?,
    List.findSome?_singleton]

/-- There is a last definition if and only if some section opens one. -/
theorem isSome_lastDefinition?_iff {ss : List Section} :
    (lastDefinition? ss).isSome ↔ ∃ s ∈ ss, ∃ h, SectionKind.ofName s.name = .statedef h := by
  rw [lastDefinition?, List.findSome?_isSome_iff]
  simp only [List.mem_reverse]
  refine exists_congr fun s => and_congr_right fun _ => ?_
  unfold definition?
  cases SectionKind.ofName s.name with
  | statedef h => exact ⟨fun _ => ⟨h, rfl⟩, fun _ => rfl⟩
  | state h => simp
  | other => simp

/-! ## Recording a value for every number declared -/

section Recording

variable {α : Type}

/-- The registry after a value of the section has been recorded for the number it declares. -/
def recordDeclared (f : Section → α) (r : Registry Int32 α) (s : Section) : Registry Int32 α :=
  match declared? s with
  | some id => r.record id (f s)
  | none => r

/-- The registry after this has been done for some sections. -/
def recordAll (f : Section → α) (r : Registry Int32 α) (ss : List Section) : Registry Int32 α :=
  ss.foldl (recordDeclared f) r

theorem recordAll_cons (f : Section → α) (r : Registry Int32 α) (s : Section)
    (ss : List Section) : recordAll f r (s :: ss) = recordAll f (recordDeclared f r s) ss := rfl

theorem recordDeclared_of_some (f : Section → α) (r : Registry Int32 α) {s : Section} {id : Int32}
    (h : declared? s = some id) : recordDeclared f r s = r.record id (f s) := by
  rw [recordDeclared, h]

theorem recordDeclared_of_none (f : Section → α) (r : Registry Int32 α) {s : Section}
    (h : declared? s = none) : recordDeclared f r s = r := by
  rw [recordDeclared, h]

theorem find?_recordDeclared_of_eq (f : Section → α) (r : Registry Int32 α) {s : Section} {id : Int32}
    (h : declared? s = some id) : (recordDeclared f r s).find? id = (r.find? id).or (some (f s)) := by
  rw [recordDeclared_of_some f r h, Registry.find?_record_self]

theorem find?_recordDeclared_of_ne (f : Section → α) (r : Registry Int32 α) {s : Section} {id : Int32}
    (h : declared? s ≠ some id) : (recordDeclared f r s).find? id = r.find? id := by
  cases hs : declared? s with
  | none => rw [recordDeclared_of_none f r hs]
  | some j =>
    have hne : id ≠ j := fun heq => h (heq ▸ hs)
    rw [recordDeclared_of_some f r hs, Registry.find?_record_of_ne r (f s) hne]

/-- **The first declaration counts, and a value that was there before counts more.** -/
theorem find?_recordAll (f : Section → α) (r : Registry Int32 α) (ss : List Section)
    (id : Int32) :
    (recordAll f r ss).find? id = (r.find? id).or ((declaration? id ss).map f) := by
  induction ss generalizing r with
  | nil => rw [declaration?_nil, Option.map_none, Option.or_none]; rfl
  | cons s ss ih =>
    rw [recordAll_cons, ih]
    by_cases h : declared? s = some id
    · rw [find?_recordDeclared_of_eq f r h, declaration?_cons_of_eq h, Option.or_assoc, Option.some_or,
        Option.map_some]
    · rw [find?_recordDeclared_of_ne f r h, declaration?_cons_of_ne h]

end Recording

/-! ## One section -/

variable {c : Catalog} {file : FileContext}

namespace Scan

/-- **What is found in a section** after the sections that led to `st`. -/
def found (c : Catalog) (file : FileContext) (st : Scan) (s : Section) : List Diagnostic :=
  match SectionKind.ofName s.name with
  | .statedef h => statedefFindings c file (h.id.bind st.owners.find?) s h
  | .state h =>
    match st.enclosing with
    | some d => stateFindings c file s h d
    | none => strayFindings file s
  | .other => []

theorem found_of_statedef (st : Scan) {s : Section} {h : StatedefHeader}
    (hs : SectionKind.ofName s.name = .statedef h) :
    st.found c file s = statedefFindings c file (h.id.bind st.owners.find?) s h := by
  rw [found, hs]

theorem found_of_state (st : Scan) {s : Section} {h : StateHeader}
    (hs : SectionKind.ofName s.name = .state h) {d : Definition} (hd : st.enclosing = some d) :
    st.found c file s = stateFindings c file s h d := by
  rw [found, hs, hd]

theorem found_of_stray (st : Scan) {s : Section} {h : StateHeader}
    (hs : SectionKind.ofName s.name = .state h) (hd : st.enclosing = none) :
    st.found c file s = strayFindings file s := by
  rw [found, hs, hd]

theorem found_of_other (st : Scan) {s : Section}
    (hs : SectionKind.ofName s.name = .other) : st.found c file s = [] := by
  rw [found, hs]

/-- **The four parts of a scan change each on their own.** -/
theorem step_eq (st : Scan) (s : Section) :
    st.step c file s =
      ⟨recordDeclared (fun _ => file.key) st.owners s, recordDeclared Section.position st.index s,
        (definition? s).or st.enclosing, st.findings ++ st.found c file s⟩ := by
  unfold step recordDeclared declared? definition? found
  cases SectionKind.ofName s.name with
  | statedef h =>
    obtain ⟨raw, id⟩ := h
    cases id with
    | none => rfl
    | some id => rfl
  | state h => rfl
  | other => rw [List.append_nil]; rfl

/-! ## Some sections -/

@[simp] theorem run_nil (st : Scan) : st.run c file [] = st := rfl

@[simp] theorem run_cons (st : Scan) (s : Section) (ss : List Section) :
    st.run c file (s :: ss) = (st.step c file s).run c file ss := rfl

theorem run_append (st : Scan) (as bs : List Section) :
    st.run c file (as ++ bs) = (st.run c file as).run c file bs := List.foldl_append

theorem owners_run (st : Scan) (ss : List Section) :
    (st.run c file ss).owners = recordAll (fun _ => file.key) st.owners ss := by
  induction ss generalizing st with
  | nil => rfl
  | cons s ss ih => rw [run_cons, ih, step_eq, recordAll_cons]

theorem index_run (st : Scan) (ss : List Section) :
    (st.run c file ss).index = recordAll Section.position st.index ss := by
  induction ss generalizing st with
  | nil => rfl
  | cons s ss ih => rw [run_cons, ih, step_eq, recordAll_cons]

/-- **The enclosing definition is the one opened last.** -/
theorem enclosing_run (st : Scan) (ss : List Section) :
    (st.run c file ss).enclosing = (lastDefinition? ss).or st.enclosing := by
  induction ss generalizing st with
  | nil => rfl
  | cons s ss ih => rw [run_cons, ih, step_eq, lastDefinition?_cons, Option.or_assoc]

/-- **Findings are only put at the end.** -/
theorem exists_findings_run (c : Catalog) (file : FileContext) (st : Scan) (ss : List Section) :
    ∃ ds, (st.run c file ss).findings = st.findings ++ ds := by
  induction ss generalizing st with
  | nil => exact ⟨[], (List.append_nil _).symm⟩
  | cons s ss ih =>
    obtain ⟨ds, hds⟩ := ih (st.step c file s)
    refine ⟨st.found c file s ++ ds, ?_⟩
    rw [run_cons, hds, step_eq, List.append_assoc]

/-- What is found in a section stands in the findings right after those on the sections before it. -/
theorem exists_findings_run_middle (c : Catalog) (file : FileContext) (st : Scan)
    (pre : List Section) (s : Section) (post : List Section) :
    ∃ later, (st.run c file (pre ++ s :: post)).findings =
      (st.run c file pre).findings ++ (st.run c file pre).found c file s ++ later := by
  rw [run_append, run_cons]
  obtain ⟨later, h⟩ := exists_findings_run c file ((st.run c file pre).step c file s) post
  refine ⟨later, ?_⟩
  rw [h, step_eq]

/-- **Every finding of a run is found in some section**, after the sections before it. -/
theorem mem_findings_run_iff {st : Scan} {ss : List Section} {x : Diagnostic} :
    x ∈ (st.run c file ss).findings ↔ x ∈ st.findings ∨
      ∃ pre s post, ss = pre ++ s :: post ∧ x ∈ (st.run c file pre).found c file s := by
  induction ss generalizing st with
  | nil => simp
  | cons a ss ih =>
    rw [run_cons, ih, step_eq, List.mem_append, or_assoc]
    refine or_congr_right ⟨?_, ?_⟩
    · rintro (hx | ⟨pre, s, post, rfl, hx⟩)
      · exact ⟨[], a, ss, rfl, hx⟩
      · refine ⟨a :: pre, s, post, rfl, ?_⟩
        rwa [run_cons, step_eq]
    · rintro ⟨pre, s, post, hsplit, hx⟩
      cases pre with
      | nil =>
        obtain ⟨rfl, rfl⟩ := List.cons.inj hsplit
        exact Or.inl hx
      | cons b pre =>
        obtain ⟨rfl, rfl⟩ := List.cons.inj hsplit
        rw [run_cons, step_eq] at hx
        exact Or.inr ⟨pre, s, post, rfl, hx⟩

end Scan

/-! ## A whole file -/

/-- The catalog without rules: no parameter and no controller is known. -/
def noRules : Catalog := ⟨⟨"statedef", .int, true, []⟩, ⟨"state", .int, true, []⟩, .empty⟩

theorem owners_validate (owners : OwnerMap) (d : Document) :
    (validate c file owners d).owners = recordAll (fun _ => file.key) owners d.sections :=
  Scan.owners_run _ _

theorem index_validate (owners : OwnerMap) (d : Document) :
    (validate c file owners d).index = recordAll Section.position .empty d.sections :=
  Scan.index_run _ _

/-- **Every finding on a file is found in some section of it.** -/
theorem mem_findings_validate_iff {owners : OwnerMap} {d : Document} {x : Diagnostic} :
    x ∈ (validate c file owners d).findings ↔ ∃ pre s post, d.sections = pre ++ s :: post ∧
      x ∈ ((Scan.start owners).run c file pre).found c file s :=
  Scan.mem_findings_run_iff.trans (or_iff_right List.not_mem_nil)

/-- **The owner of a number after a file** is the one before it, or the file itself if it declares the
number. -/
theorem find?_owners_validate (owners : OwnerMap) (d : Document) (id : Int32) :
    (validate c file owners d).owners.find? id =
      (owners.find? id).or ((declaration? id d.sections).map fun _ => file.key) := by
  rw [owners_validate, find?_recordAll]

/-- **The index of a file** leads to the first section that declares a number. -/
theorem find?_index_validate (owners : OwnerMap) (d : Document) (id : Int32) :
    (validate c file owners d).index.find? id =
      (declaration? id d.sections).map Section.position := by
  rw [index_validate, find?_recordAll, Registry.find?_empty, Option.none_or]

end FighterCheck.State
