import FighterCheck.Proofs.State.Ledger

/-!
# What one file learns of the others

The map of owners goes from file to file and is asked in the middle of each header of a definition, so
what other files declare could in principle turn up anywhere in the findings on a file. It turns up in
one kind of finding only, the one that a number is declared elsewhere (`isRepeat`).

The proof compares any check of a document with the check of it as the common file, in which no such
finding arises at all: the first finds what the second does and the repeats besides
(`Scan.PlainlyAgree`, kept by each section and so by a run). Two checks of a document therefore agree,
whoever owns which number before them, since both agree with the same third one.
-/

namespace FighterCheck.State

open Ini (Document Section)
open Schema (Catalog)

variable {c : Catalog} {file : FileContext} {key : String} {b : Bool} {s : Section}
  {x : Diagnostic}

/-! ## Repeats -/

/-- The finding says that a number is declared elsewhere. Of all that is worth knowing, only this begins
by calling its section a definition. -/
def isRepeat (x : Diagnostic) : Bool :=
  x.severity == .info && "Statedef ".toList.isPrefixOf x.message.toList

theorem isRepeat_repeatFinding (file : FileContext) (id : Int32) (owner : String) :
    isRepeat (repeatFinding file id owner) = true := by
  simp only [isRepeat, repeatFinding, FileContext.finding, String.toList_append, List.append_assoc,
    beq_self_eq_true, Bool.true_and, List.isPrefixOf_iff_prefix]
  exact List.prefix_append _ _

theorem isRepeat_warning (m : String) : isRepeat (file.finding .warning m) = false := rfl

/-- A finding on a state block is no repeat. -/
theorem OnState.isRepeat_eq_false (hx : OnState file x) : isRepeat x = false := by
  have hnot : ¬ "Statedef ".toList <+: x.message.toList := by
    intro h
    -- the sixth character would have to be both a blank and the letter after `State`
    have hle : "State `".toList <+: "Statedef ".toList :=
      List.prefix_of_prefix_length_le hx.2 h (by decide)
    exact absurd hle (by decide)
  rw [isRepeat, Bool.and_eq_false_iff]
  exact Or.inr (Bool.eq_false_iff.mpr fun h => hnot (List.isPrefixOf_iff_prefix.mp h))

/-- Findings without a repeat among them are all plain. -/
theorem filter_plain_eq_self {ds : List Diagnostic} (h : ∀ x ∈ ds, isRepeat x = false) :
    (ds.filter fun x => !isRepeat x) = ds :=
  List.filter_eq_self.mpr fun x hx => by rw [h x hx]; rfl

theorem isRepeat_of_mem_parameterFindings {rules : List Schema.Property} {h : StatedefHeader}
    (hx : x ∈ parameterFindings rules file s h) : isRepeat x = false := by
  obtain ⟨m, rfl⟩ := exists_warning_of_mem_parameterFindings hx
  exact isRepeat_warning m

/-! ## The plain findings on a section -/

/-- **Without the repeats, the header of a definition yields what it would in the common file**, where
owners do not count. -/
theorem filter_plain_statedefFindings (owner owner' : Option String) (h : StatedefHeader) :
    (statedefFindings c ⟨key, b⟩ owner s h).filter (fun x => !isRepeat x) =
      statedefFindings c ⟨key, true⟩ owner' s h := by
  rw [statedefFindings_eq, statedefFindings_eq, List.filter_append,
    filter_plain_eq_self fun x hx => isRepeat_of_mem_parameterFindings hx]
  refine congrArg (· ++ parameterFindings c.statedef.properties ⟨key, b⟩ s h) ?_
  cases hid : h.id with
  | none =>
    rw [filter_plain_eq_self]
    · simp only [numberFindings, hid]
      rfl
    · intro x hx
      obtain ⟨m, rfl⟩ := exists_warning_of_mem_numberFindings hid hx
      exact isRepeat_warning m
  | some id =>
    rw [numberFindings_of_some hid, numberFindings_of_some hid, if_pos rfl, List.filter_eq_nil_iff]
    intro x hx
    split at hx
    · exact absurd hx List.not_mem_nil
    · obtain ⟨owner, _, rfl⟩ := List.mem_map.mp hx
      rw [isRepeat_repeatFinding]
      exact Bool.noConfusion

namespace Scan

variable {st st' : Scan}

/-- A scan has found what another has and repeats besides, and is in the same definition. -/
structure PlainlyAgree (st st' : Scan) : Prop where
  /-- the definition that stands last is the same -/
  enclosing : st.enclosing = st'.enclosing
  /-- the findings are the same but for repeats -/
  findings : st.findings.filter (fun x => !isRepeat x) = st'.findings

theorem PlainlyAgree.found (h : PlainlyAgree st st') (s : Section) :
    (st.found c ⟨key, b⟩ s).filter (fun x => !isRepeat x) = st'.found c ⟨key, true⟩ s := by
  cases hs : SectionKind.ofName s.name with
  | statedef hd =>
    rw [found_of_statedef st hs, found_of_statedef st' hs, filter_plain_statedefFindings]
  | state hd =>
    rw [filter_plain_eq_self fun x hx => (onState_of_mem_found hs hx).isRepeat_eq_false]
    cases henc : st'.enclosing with
    | none =>
      rw [found_of_stray st hs (h.enclosing.trans henc), found_of_stray st' hs henc]
      rfl
    | some d =>
      rw [found_of_state st hs (h.enclosing.trans henc), found_of_state st' hs henc]
      rfl
  | other => rw [found_of_other st hs, found_of_other st' hs, List.filter_nil]

/-- **One more section keeps two scans in agreement.** -/
theorem PlainlyAgree.step (h : PlainlyAgree st st') (s : Section) :
    PlainlyAgree (st.step c ⟨key, b⟩ s) (st'.step c ⟨key, true⟩ s) where
  enclosing := by rw [step_eq, step_eq, h.enclosing]
  findings := by rw [step_eq, step_eq, List.filter_append, h.findings, h.found s]

theorem PlainlyAgree.run (h : PlainlyAgree st st') (ss : List Section) :
    PlainlyAgree (st.run c ⟨key, b⟩ ss) (st'.run c ⟨key, true⟩ ss) := by
  induction ss generalizing st st' with
  | nil => exact h
  | cons s ss ih => exact ih (h.step s)

/-- Whether a finding is a repeat can be told from its beginning. -/
theorem isRepeat_iff_of_mem_found (hx : x ∈ st.found c file s) :
    isRepeat x = true ↔ ∃ id owner, x = repeatFinding file id owner := by
  refine ⟨fun hrep => ?_, fun ⟨id, owner, hx⟩ => hx ▸ isRepeat_repeatFinding file id owner⟩
  cases hs : SectionKind.ofName s.name with
  | statedef h =>
    rw [found_of_statedef st hs, statedefFindings_eq] at hx
    rcases List.mem_append.mp hx with hx | hx
    · cases hid : h.id with
      | none =>
        obtain ⟨m, rfl⟩ := exists_warning_of_mem_numberFindings hid hx
        exact absurd hrep (by rw [isRepeat_warning]; exact Bool.noConfusion)
      | some id =>
        rw [numberFindings_of_some hid] at hx
        split at hx
        · exact absurd hx List.not_mem_nil
        · obtain ⟨owner, _, rfl⟩ := List.mem_map.mp hx
          exact ⟨id, owner, rfl⟩
    · exact absurd hrep (by rw [isRepeat_of_mem_parameterFindings hx]; exact Bool.noConfusion)
  | state h =>
    rw [(onState_of_mem_found hs hx).isRepeat_eq_false] at hrep
    exact Bool.noConfusion hrep
  | other =>
    rw [found_of_other st hs] at hx
    exact absurd hx List.not_mem_nil

end Scan

/-! ## The plain findings on a file -/

/-- **The plain findings on a file are those on it as the common file**, whoever owns which number. -/
theorem filter_plain_findings_validate (owners owners' : OwnerMap) (d : Document) :
    (validate c ⟨key, b⟩ owners d).findings.filter (fun x => !isRepeat x) =
      (validate c ⟨key, true⟩ owners' d).findings :=
  have hstart : Scan.PlainlyAgree (Scan.start owners) (Scan.start owners') := ⟨rfl, rfl⟩
  (hstart.run d.sections).findings

/-- No finding on the common file is a repeat. -/
theorem isRepeat_of_mem_findings_common {owners : OwnerMap} {d : Document}
    (hx : x ∈ (validate c ⟨key, true⟩ owners d).findings) : isRepeat x = false := by
  rw [← filter_plain_findings_validate (b := true) owners owners d] at hx
  simpa using (List.mem_filter.mp hx).2

theorem isRepeat_iff_of_mem_findings {owners : OwnerMap} {d : Document}
    (hx : x ∈ (validate c file owners d).findings) :
    isRepeat x = true ↔ ∃ id owner, x = repeatFinding file id owner := by
  obtain ⟨pre, s, post, _, hx⟩ := mem_findings_validate_iff.mp hx
  exact Scan.isRepeat_iff_of_mem_found hx

/-- A number has an owner after a file if it had one before or some section declares it. -/
theorem contains_owners_validate_iff {owners : OwnerMap} {d : Document} {id : Int32} :
    (validate c file owners d).owners.contains id = true ↔
      owners.contains id = true ∨ ∃ s ∈ d.sections, declared? s = some id := by
  rw [Registry.contains, find?_owners_validate, Option.isSome_or, Option.isSome_map,
    Bool.or_eq_true, isSome_declaration?_iff, Registry.contains]

/-- **Only repeats tell of other files.** Two checks of a document under one key, whatever owners and
reports they begin with and whether or not it is checked as the common file, yield the same index and
add the same findings but for repeats. A finding added by a check is a repeat exactly if it says of some
number that some file has declared it, and in the common file none is. After a check, the numbers with
an owner are those that had one and those that the document declares. -/
theorem only_repeats_tell_of_other_files (c : Catalog) (key : String) (d : Document)
    (l l' : Ledger) (b b' : Bool) :
    (validate c ⟨key, b⟩ l.owners d).index = (validate c ⟨key, b'⟩ l'.owners d).index ∧
    (∀ id, (l.check c (⟨key, b⟩, d)).owners.contains id = true ↔
      l.owners.contains id = true ∨ ∃ s ∈ d.sections, declared? s = some id) ∧
    ∃ ds ds',
      (l.check c (⟨key, b⟩, d)).report.diagnostics = l.report.diagnostics ++ ds ∧
      (l'.check c (⟨key, b'⟩, d)).report.diagnostics = l'.report.diagnostics ++ ds' ∧
      ds.filter (fun x => !isRepeat x) = ds'.filter (fun x => !isRepeat x) ∧
      (∀ x ∈ ds, isRepeat x = true ↔ ∃ id owner, x = repeatFinding ⟨key, b⟩ id owner) ∧
      (b = true → ∀ x ∈ ds, isRepeat x = false) := by
  refine ⟨?_, fun id => contains_owners_validate_iff, (validate c ⟨key, b⟩ l.owners d).findings,
    (validate c ⟨key, b'⟩ l'.owners d).findings, rfl, rfl, ?_,
    fun x hx => isRepeat_iff_of_mem_findings hx, ?_⟩
  · rw [index_validate, index_validate]
  · rw [filter_plain_findings_validate l.owners l.owners,
      filter_plain_findings_validate l'.owners l.owners]
  · rintro rfl x hx
    exact isRepeat_of_mem_findings_common hx

/-- A second file that declares `5` twice is told so twice after the first has declared it, and not at
all as the common file; the rest of what is found is the same. -/
theorem only_repeats_tell_of_number_declared_before :
    ∃ ds ds',
      ((⟨.empty, .empty⟩ : Ledger).check noRules (⟨"st0", true⟩,
        ⟨[⟨"statedef 5", 0, [⟨"foo", "1"⟩]⟩, ⟨"statedef +5", 1, []⟩]⟩)).report.diagnostics =
          [] ++ ds ∧
      ((⟨Registry.empty.record 5 "st", .empty⟩ : Ledger).check noRules (⟨"st0", false⟩,
        ⟨[⟨"statedef 5", 0, [⟨"foo", "1"⟩]⟩, ⟨"statedef +5", 1, []⟩]⟩)).report.diagnostics =
          [] ++ ds' ∧
      ds.filter (fun x => !isRepeat x) = ds'.filter (fun x => !isRepeat x) ∧
      (∀ x ∈ ds, isRepeat x = false) ∧
      ds' = [repeatFinding ⟨"st0", false⟩ 5 "st",
        ⟨"Statedef 5 in file st0 has invalid parameter foo!", .warning, some "st0"⟩,
        repeatFinding ⟨"st0", false⟩ 5 "st"] := by
  obtain ⟨_, _, ds, ds', hds, hds', hplain, _, hnone⟩ := only_repeats_tell_of_other_files noRules
    "st0" ⟨[⟨"statedef 5", 0, [⟨"foo", "1"⟩]⟩, ⟨"statedef +5", 1, []⟩]⟩ ⟨.empty, .empty⟩
    ⟨Registry.empty.record 5 "st", .empty⟩ true false
  refine ⟨ds, ds', hds, hds', hplain, hnone rfl, hds'.symm.trans ?_⟩
  decide

end FighterCheck.State
