import FighterCheck.Proofs.State.Blocks

/-!
# Which files have errors

Of all that is found in a file, two things are errors: a state block in a definition that has no
separator, and one whose type is that of a controller but not permitted. A file in which some section is
such a block has a flaw (`HasFlaw`); the condition is said of the document alone. No other finding is an
error, be it on definitions, on strays, or on a number declared elsewhere. So the errors found in a file
are those two findings on its blocks (`error_mem_findings_validate_iff`), and there are some if and only if
the file has a flaw, whatever other files there are.
-/

namespace FighterCheck.State

open Ini (Document Section)
open Schema (Catalog)

variable {c : Catalog} {file : FileContext} {s : Section} {x : Diagnostic}

/-- A state block after some definition has no separator or a type that is not permitted. -/
def HasFlaw (c : Catalog) (d : Document) : Prop :=
  ∃ pre s post h, d.sections = pre ++ s :: post ∧ SectionKind.ofName s.name = .state h ∧
    (∃ q ∈ pre, ∃ hd, SectionKind.ofName q.name = .statedef hd) ∧
    (h.hasSeparator = false ∨ IsWrongType c s)

/-- Some finding is an error. -/
def HasError (ds : List Diagnostic) : Prop := ∃ x ∈ ds, x.severity = .error

theorem hasError_append {ds es : List Diagnostic} :
    HasError (ds ++ es) ↔ HasError ds ∨ HasError es := by
  simp only [HasError, List.mem_append, or_and_right, exists_or]

theorem hasError_singleton : HasError [x] ↔ x.severity = .error := by
  simp only [HasError, List.mem_singleton, exists_eq_left]

/-- The two findings on a state block in a definition that are errors. -/
inductive IsBlockError (c : Catalog) (file : FileContext) (s : Section) (h : StateHeader)
    (d : Definition) : Diagnostic → Prop
  /-- it has no separator -/
  | separator (hseparator : h.hasSeparator = false) :
    IsBlockError c file s h d (separatorFinding file s d)
  /-- its type is wrong -/
  | type (htype : IsWrongType c s) : IsBlockError c file s h d (typeFinding file s d)

/-- A state block has an error if its separator is missing or its type is wrong. -/
theorem exists_isBlockError_iff {h : StateHeader} {d : Definition} :
    (∃ x, IsBlockError c file s h d x) ↔ h.hasSeparator = false ∨ IsWrongType c s := by
  constructor
  · rintro ⟨x, hseparator | htype⟩
    · exact Or.inl hseparator
    · exact Or.inr htype
  · rintro (hseparator | htype)
    · exact ⟨_, .separator hseparator⟩
    · exact ⟨_, .type htype⟩

/-- Nothing found in the header of a definition is an error. -/
theorem severity_ne_error_of_mem_statedefFindings {owner : Option String} {h : StatedefHeader}
    (hx : x ∈ statedefFindings c file owner s h) : x.severity ≠ .error := by
  rw [statedefFindings_eq] at hx
  rcases List.mem_append.mp hx with hx | hx
  · cases hid : h.id with
    | none =>
      obtain ⟨m, rfl⟩ := exists_warning_of_mem_numberFindings hid hx
      exact Severity.noConfusion
    | some id =>
      rw [numberFindings_of_some hid] at hx
      split at hx
      · exact absurd hx List.not_mem_nil
      · obtain ⟨owner, _, rfl⟩ := List.mem_map.mp hx
        exact Severity.noConfusion
  · obtain ⟨m, rfl⟩ := exists_warning_of_mem_parameterFindings hx
    exact Severity.noConfusion

/-- **The errors on a state block in a definition** are that its separator is missing and that its type
is wrong, each if it is so. -/
theorem error_mem_stateFindings_iff {h : StateHeader} {d : Definition} :
    x ∈ stateFindings c file s h d ∧ x.severity = .error ↔ IsBlockError c file s h d x := by
  rw [stateFindings, separatorFindings_eq, typeFindings_eq]
  constructor
  · rintro ⟨hx, herror⟩
    simp only [List.mem_append] at hx
    rcases hx with ((hx | hx) | hx) | hx
    · obtain ⟨m, _, rfl⟩ := exists_debug_of_mem_numberingFindings hx
      exact Severity.noConfusion herror
    · split at hx
      · exact absurd hx List.not_mem_nil
      · next hseparator =>
        rw [List.mem_singleton.mp hx]
        exact .separator (Bool.eq_false_iff.mpr hseparator)
    · split at hx
      · next htype =>
        rw [List.mem_singleton.mp hx]
        exact .type htype
      · exact absurd hx List.not_mem_nil
    · obtain ⟨e, _, rfl⟩ := List.mem_map.mp hx
      exact Severity.noConfusion herror
  · intro hx
    cases hx with
    | separator hseparator =>
      rw [hseparator]
      simp [separatorFinding, FileContext.finding]
    | type htype =>
      rw [if_pos htype]
      simp [typeFinding, FileContext.finding]

/-- **The errors on a section** are those on a state block in a definition. -/
theorem Scan.error_mem_found_iff {st : Scan} :
    x ∈ st.found c file s ∧ x.severity = .error ↔ ∃ h d, SectionKind.ofName s.name = .state h ∧
      st.enclosing = some d ∧ IsBlockError c file s h d x := by
  constructor
  · rintro ⟨hx, herror⟩
    cases hs : SectionKind.ofName s.name with
    | statedef h =>
      rw [found_of_statedef st hs] at hx
      exact absurd herror (severity_ne_error_of_mem_statedefFindings hx)
    | state h =>
      cases henc : st.enclosing with
      | none =>
        rw [found_of_stray st hs henc, strayFindings, List.mem_singleton] at hx
        rw [hx] at herror
        exact Severity.noConfusion herror
      | some d =>
        rw [found_of_state st hs henc] at hx
        exact ⟨h, d, rfl, rfl, error_mem_stateFindings_iff.mp ⟨hx, herror⟩⟩
    | other =>
      rw [found_of_other st hs] at hx
      exact absurd hx List.not_mem_nil
  · rintro ⟨h, d, hs, henc, hx⟩
    rw [found_of_state st hs henc]
    exact error_mem_stateFindings_iff.mpr hx

/-- **The errors on a file**: a state block has them by the definition that stands last before it. -/
theorem error_mem_findings_validate_iff {owners : OwnerMap} {d : Document} :
    x ∈ (validate c file owners d).findings ∧ x.severity = .error ↔
      ∃ pre s post h g, d.sections = pre ++ s :: post ∧ SectionKind.ofName s.name = .state h ∧
        lastDefinition? pre = some g ∧ IsBlockError c file s h g x := by
  rw [mem_findings_validate_iff]
  constructor
  · rintro ⟨⟨pre, s, post, hsplit, hx⟩, herror⟩
    obtain ⟨h, g, hs, henc, hx⟩ := Scan.error_mem_found_iff.mp ⟨hx, herror⟩
    exact ⟨pre, s, post, h, g, hsplit, hs, enclosing_run_start c file owners pre ▸ henc, hx⟩
  · rintro ⟨pre, s, post, h, g, hsplit, hs, hg, hx⟩
    have henc := (enclosing_run_start c file owners pre).trans hg
    obtain ⟨hmem, herror⟩ := Scan.error_mem_found_iff.mpr ⟨h, g, hs, henc, hx⟩
    exact ⟨⟨pre, s, post, hsplit, hmem⟩, herror⟩

/-- **A check finds an error in a file if and only if the file has a flaw**, whoever owns which
number. -/
theorem hasError_findings_validate_iff {owners : OwnerMap} {d : Document} :
    HasError (validate c file owners d).findings ↔ HasFlaw c d := by
  rw [HasError]
  simp only [error_mem_findings_validate_iff]
  constructor
  · rintro ⟨x, pre, s, post, h, g, hsplit, hs, hg, hx⟩
    refine ⟨pre, s, post, h, hsplit, hs, isSome_lastDefinition?_iff.mp ?_,
      exists_isBlockError_iff.mp ⟨x, hx⟩⟩
    rw [hg]
    rfl
  · rintro ⟨pre, s, post, h, hsplit, hs, hdef, hflaw⟩
    obtain ⟨g, hg⟩ := Option.isSome_iff_exists.mp (isSome_lastDefinition?_iff.mpr hdef)
    obtain ⟨x, hx⟩ := (@exists_isBlockError_iff c file s h g).mpr hflaw
    exact ⟨x, pre, s, post, h, g, hsplit, hs, hg, hx⟩

end FighterCheck.State
