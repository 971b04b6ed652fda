import FighterCheck.Proofs.State.Scan

/-!
# What kinds of findings a section yields

Every finding names the file it was found in (`file_of_mem_found`). The findings on the header of a
definition are warnings, but for the one that its number is declared elsewhere (`repeatFinding`), which
is only worth knowing; those on a state block all begin by calling it one, so that none of them can be
taken for that. So this finding arises exactly at the header of a definition whose number has an owner,
outside the common file (`filter_info_found`, `repeatFinding_notMem_found`).
-/

namespace FighterCheck.State

open Ini (Section)
open Schema (Catalog Property)

variable {c : Catalog} {file : FileContext} {s : Section} {x : Diagnostic}

/-- The finding that a number has been declared before, in the file `owner`. -/
def repeatFinding (file : FileContext) (id : Int32) (owner : String) : Diagnostic :=
  file.finding .info ("Statedef " ++ Text.showInt32 id ++ " in file " ++ file.key ++
    " already defined in file " ++ owner ++ "!")

/-! ## The header of a definition -/

/-- **A number that can be read is reported if it has an owner**, unless the file is the common
one. -/
theorem numberFindings_of_some {h : StatedefHeader} {id : Int32} (hid : h.id = some id)
    (owner : Option String) :
    numberFindings file owner s h =
      if file.isCommon then [] else owner.toList.map (repeatFinding file id) := by
  unfold numberFindings
  rw [hid]
  cases owner with
  | none => cases file.isCommon <;> rfl
  | some owner => rfl

theorem exists_warning_of_mem_numberFindings {h : StatedefHeader} (hid : h.id = none)
    {owner : Option String} (hx : x ∈ numberFindings file owner s h) :
    ∃ m, x = file.finding .warning m := by
  unfold numberFindings at hx
  rw [hid] at hx
  exact ⟨_, List.mem_singleton.mp hx⟩

/-- The findings on the header of a definition besides those on its number. -/
def parameterFindings (rules : List Property) (file : FileContext) (s : Section)
    (h : StatedefHeader) : List Diagnostic :=
  unknownParameterFindings rules file s h ++ missingParameterFindings rules file s h ++
    optionFindings rules file s h

theorem statedefFindings_eq (owner : Option String) (h : StatedefHeader) :
    statedefFindings c file owner s h =
      numberFindings file owner s h ++ parameterFindings c.statedef.properties file s h := by
  rw [statedefFindings, parameterFindings, List.append_assoc, List.append_assoc, List.append_assoc]

theorem exists_warning_of_mem_parameterFindings {rules : List Property} {h : StatedefHeader}
    (hx : x ∈ parameterFindings rules file s h) : ∃ m, x = file.finding .warning m := by
  unfold parameterFindings at hx
  rcases List.mem_append.mp hx with hx | hx
  · rcases List.mem_append.mp hx with hx | hx
    · obtain ⟨e, _, rfl⟩ := List.mem_map.mp hx
      exact ⟨_, rfl⟩
    · obtain ⟨p, _, rfl⟩ := List.mem_map.mp hx
      exact ⟨_, rfl⟩
  · obtain ⟨p, _, hp⟩ := List.mem_filterMap.mp hx
    unfold optionFinding? at hp
    split at hp
    · exact absurd hp (by simp)
    · split at hp
      · exact absurd hp (by simp)
      · exact ⟨_, (Option.some.inj hp).symm⟩

/-! ## State blocks -/

/-- The text calls a section a state block. -/
def CallsState (m : String) : Prop := "State `".toList <+: m.toList

theorem callsState_append (a : String) : CallsState ("State `" ++ a) := by
  rw [CallsState, String.toList_append]
  exact List.prefix_append _ _

theorem CallsState.append {m : String} (h : CallsState m) (a : String) : CallsState (m ++ a) := by
  rw [CallsState, String.toList_append]
  exact h.trans (List.prefix_append _ _)

/-- The finding is one on a state block of the file. -/
def OnState (file : FileContext) (x : Diagnostic) : Prop :=
  x.file = some file.key ∧ CallsState x.message

theorem onState_of_mem_strayFindings (hx : x ∈ strayFindings file s) : OnState file x := by
  rw [List.mem_singleton.mp hx]
  exact ⟨rfl, (callsState_append s.name).append _⟩

theorem exists_debug_of_mem_numberingFindings {h : StateHeader} {d : Definition}
    (hx : x ∈ numberingFindings file s h d) : ∃ m, CallsState m ∧ x = file.finding .debug m := by
  have hcalls : ∀ a b, CallsState ("State `" ++ s.name ++ a ++ d.label ++ b) := fun a b =>
    (((callsState_append s.name).append a).append d.label).append b
  unfold numberingFindings at hx
  dsimp only at hx
  split at hx
  · exact ⟨_, hcalls _ _, List.mem_singleton.mp hx⟩
  · exact ⟨_, hcalls _ _, List.mem_singleton.mp hx⟩
  · split at hx
    · exact ⟨_, hcalls _ _, List.mem_singleton.mp hx⟩
    · exact absurd hx List.not_mem_nil

theorem callsState_statePlace (s : Section) (d : Definition) : CallsState (statePlace s d) :=
  ((callsState_append s.name).append _).append d.label

theorem onState_of_mem_separatorFindings {h : StateHeader} {d : Definition}
    (hx : x ∈ separatorFindings file s h d) : OnState file x := by
  unfold separatorFindings at hx
  split at hx
  · exact absurd hx List.not_mem_nil
  · rw [List.mem_singleton.mp hx]
    exact ⟨rfl, (callsState_statePlace s d).append _⟩

theorem onState_of_mem_typeFindings {d : Definition} (hx : x ∈ typeFindings c file s d) :
    OnState file x := by
  unfold typeFindings at hx
  split at hx
  · exact absurd hx List.not_mem_nil
  · split at hx
    · exact absurd hx List.not_mem_nil
    · split at hx
      · rw [List.mem_singleton.mp hx]
        exact ⟨rfl, (((callsState_statePlace s d).append _).append _).append _⟩
      · exact absurd hx List.not_mem_nil

theorem onState_of_mem_stateParameterFindings {d : Definition}
    (hx : x ∈ stateParameterFindings c file s d) : OnState file x := by
  obtain ⟨e, _, rfl⟩ := List.mem_map.mp hx
  have hplace : CallsState ("State `" ++ s.name ++ "` with type " ++
      (s.value? "type").getD "(none)" ++ " in statedef group " ++ d.label) :=
    ((((callsState_append s.name).append _).append _).append _).append d.label
  exact ⟨rfl, ((hplace.append _).append e.key).append _⟩

theorem onState_of_mem_stateFindings {h : StateHeader} {d : Definition}
    (hx : x ∈ stateFindings c file s h d) : OnState file x := by
  unfold stateFindings at hx
  simp only [List.mem_append] at hx
  rcases hx with ((hx | hx) | hx) | hx
  · obtain ⟨m, hm, rfl⟩ := exists_debug_of_mem_numberingFindings hx
    exact ⟨rfl, hm⟩
  · exact onState_of_mem_separatorFindings hx
  · exact onState_of_mem_typeFindings hx
  · exact onState_of_mem_stateParameterFindings hx

/-- A finding on a state block is none on a number declared before. -/
theorem OnState.ne_repeatFinding (hx : OnState file x) (id : Int32) (owner : String) :
    x ≠ repeatFinding file id owner := by
  rintro rfl
  have h := hx.2
  simp only [CallsState, repeatFinding, FileContext.finding, String.toList_append,
    List.append_assoc] at h
  -- the two texts part after the word `State`
  have h5 := h.getElem (i := 5) (by decide)
  simp at h5

/-! ## Any section -/

namespace Scan

variable {st : Scan}

theorem onState_of_mem_found {h : StateHeader} (hs : SectionKind.ofName s.name = .state h)
    (hx : x ∈ st.found c file s) : OnState file x := by
  cases hd : st.enclosing with
  | none => exact onState_of_mem_strayFindings (found_of_stray st hs hd ▸ hx)
  | some d => exact onState_of_mem_stateFindings (found_of_state st hs hd ▸ hx)

/-- **Every finding names its file.** -/
theorem file_of_mem_found (hx : x ∈ st.found c file s) : x.file = some file.key := by
  cases hs : SectionKind.ofName s.name with
  | statedef h =>
    rw [found_of_statedef st hs, statedefFindings_eq] at hx
    rcases List.mem_append.mp hx with hx | hx
    · cases hid : h.id with
      | none =>
        obtain ⟨m, rfl⟩ := exists_warning_of_mem_numberFindings hid hx
        rfl
      | some id =>
        rw [numberFindings_of_some hid] at hx
        split at hx
        · exact absurd hx List.not_mem_nil
        · obtain ⟨owner, _, rfl⟩ := List.mem_map.mp hx
          rfl
    · obtain ⟨m, rfl⟩ := exists_warning_of_mem_parameterFindings hx
      rfl
  | state h =>
    exact (onState_of_mem_found hs hx).1
  | other =>
    rw [found_of_other st hs] at hx
    exact absurd hx List.not_mem_nil

/-- A run adds findings that name its file. -/
theorem file_of_mem_findings_run (st : Scan) (ss : List Section)
    (hst : ∀ x ∈ st.findings, x.file = some file.key) :
    ∀ x ∈ (st.run c file ss).findings, x.file = some file.key := by
  induction ss generalizing st with
  | nil => exact hst
  | cons s ss ih =>
    rw [run_cons]
    refine ih _ fun x hx => ?_
    rw [step_eq] at hx
    rcases List.mem_append.mp hx with hx | hx
    · exact hst x hx
    · exact file_of_mem_found hx

/-- **What is worth knowing about a declaration** is the owner of its number, once. -/
theorem filter_info_found {id : Int32} (hs : declared? s = some id) :
    (st.found c file s).filter (·.severity == .info) =
      if file.isCommon then [] else (st.owners.find? id).toList.map (repeatFinding file id) := by
  obtain ⟨h, hk, hid⟩ := declared?_eq_some_iff.mp hs
  have hwarn : (parameterFindings c.statedef.properties file s h).filter
      (·.severity == .info) = [] := by
    refine List.filter_eq_nil_iff.mpr fun x hx => ?_
    obtain ⟨m, rfl⟩ := exists_warning_of_mem_parameterFindings hx
    exact Bool.noConfusion
  have hinfo : ∀ l : List String,
      (l.map (repeatFinding file id)).filter (·.severity == .info) =
        l.map (repeatFinding file id) := by
    intro l
    refine List.filter_eq_self.mpr fun x hx => ?_
    obtain ⟨owner, _, rfl⟩ := List.mem_map.mp hx
    rfl
  rw [found_of_statedef st hk, statedefFindings_eq, List.filter_append, hwarn, List.append_nil,
    numberFindings_of_some hid, hid, Option.bind_some]
  split
  · rfl
  · exact hinfo _

/-- A section that declares no number is never found to repeat one. -/
theorem repeatFinding_notMem_found (hs : declared? s = none) (id : Int32) (owner : String) :
    repeatFinding file id owner ∉ st.found c file s := by
  intro hx
  cases hk : SectionKind.ofName s.name with
  | statedef h =>
    have hid : h.id = none := by rw [← declared?_of_statedef hk, hs]
    rw [found_of_statedef st hk, statedefFindings_eq] at hx
    have hwarn : ∃ m, repeatFinding file id owner = file.finding .warning m := by
      rcases List.mem_append.mp hx with hx | hx
      · exact exists_warning_of_mem_numberFindings hid hx
      · exact exists_warning_of_mem_parameterFindings hx
    obtain ⟨m, hm⟩ := hwarn
    exact Severity.noConfusion (congrArg Diagnostic.severity hm)
  | state h =>
    exact (onState_of_mem_found hk hx).ne_repeatFinding id owner rfl
  | other =>
    rw [found_of_other st hk] at hx
    exact absurd hx List.not_mem_nil

end Scan

end FighterCheck.State
