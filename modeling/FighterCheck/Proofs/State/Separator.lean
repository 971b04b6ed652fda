import FighterCheck.Proofs.State.Findings

/-!
# The space in the header of a state block

The game wants a space right after the keyword of a state block (`hasSpace`). A check looks for a space
anywhere in the header instead, which comes to the same only for headers without a further space:
`state-1` is reported, and `state-1 , ai` is not (`hasSeparator_without_space`). The main statement says
exactly which headers are reported, and for which of them this is what the game wants.
-/

namespace FighterCheck.State

open Ini (Document Section)
open Schema (Catalog)

variable {c : Catalog} {file : FileContext}

/-- A space stands right after the keyword of a state block. -/
def hasSpace (name : String) : Prop :=
  (name.toList.drop stateKeyword.length).head? = some ' '

instance (name : String) : Decidable (hasSpace name) := inferInstanceAs (Decidable (_ = _))

theorem mem_of_hasSpace {name : String} (h : hasSpace name) : ' ' ∈ name.toList :=
  List.mem_of_mem_drop (List.mem_of_head? h)

/-! ## Reading the header -/

/-- **A separator is any space in the header.** -/
theorem hasSeparator_stateHeader (name : List Char) :
    (stateHeader name).hasSeparator = true ↔ ' ' ∈ name := by
  unfold stateHeader
  split
  · next hcut =>
    have hno := Text.cut_sign_eq_none_iff.mp hcut
    exact ⟨fun h => Bool.noConfusion h, fun h => absurd h hno⟩
  · next before x rest hcut =>
    obtain ⟨rfl, rfl, _⟩ := Text.cut_sign_eq_some hcut
    exact ⟨fun _ => List.mem_append_right _ List.mem_cons_self, fun _ => rfl⟩

/-- A header that begins with the keyword of state blocks, and not with that of definitions, is one of
a state block. -/
theorem ofName_of_stateKeyword {name : String} (hstate : stateKeyword <+: name.toList)
    (hdef : ¬ statedefKeyword <+: name.toList) :
    SectionKind.ofName name = .state (stateHeader name.toList) := by
  unfold SectionKind.ofName
  rw [if_neg (by rwa [List.isPrefixOf_iff_prefix]),
    if_pos (by rwa [List.isPrefixOf_iff_prefix])]

/-- The header of a state block is read off its name. -/
theorem eq_stateHeader_of_ofName {name : String} {h : StateHeader}
    (hs : SectionKind.ofName name = .state h) : h = stateHeader name.toList := by
  unfold SectionKind.ofName at hs
  split at hs
  · exact SectionKind.noConfusion hs
  · split at hs
    · exact (SectionKind.state.inj hs).symm
    · exact SectionKind.noConfusion hs

/-- **A header is one of a definition if and only if it begins with the keyword**, and is read behind
it. -/
theorem ofName_eq_statedef_iff {name : String} {h : StatedefHeader} :
    SectionKind.ofName name = .statedef h ↔
      ∃ rest, name.toList = statedefKeyword ++ rest ∧ statedefHeader rest = h := by
  have hprefix : ∀ rest, name.toList = statedefKeyword ++ rest →
      SectionKind.ofName name = .statedef (statedefHeader rest) := by
    intro rest hname
    rw [SectionKind.ofName, hname, if_pos (List.isPrefixOf_iff_prefix.mpr (List.prefix_append _ _)),
      List.drop_left]
  constructor
  · intro hs
    unfold SectionKind.ofName at hs
    split at hs
    · next hdef =>
      obtain ⟨rest, hrest⟩ := List.isPrefixOf_iff_prefix.mp hdef
      rw [← hrest, List.drop_left] at hs
      exact ⟨rest, hrest.symm, SectionKind.statedef.inj hs⟩
    · split at hs
      · exact SectionKind.noConfusion hs
      · exact SectionKind.noConfusion hs
  · rintro ⟨rest, hname, rfl⟩
    exact hprefix rest hname

/-! ## Reporting it -/

/-- The finding that the space is missing. -/
def separatorFinding (file : FileContext) (s : Section) (d : Definition) : Diagnostic :=
  file.finding .error (statePlace s d ++ " has no trailing space!")

theorem separatorFindings_eq (s : Section) (h : StateHeader) (d : Definition) :
    separatorFindings file s h d =
      if h.hasSeparator then [] else [separatorFinding file s d] := rfl

theorem separatorFinding_notMem_numberingFindings (s : Section) (h : StateHeader) (d : Definition) :
    separatorFinding file s d ∉ numberingFindings file s h d := by
  intro hx
  obtain ⟨m, _, hm⟩ := exists_debug_of_mem_numberingFindings hx
  exact Severity.noConfusion (congrArg Diagnostic.severity hm)

theorem separatorFinding_notMem_typeFindings (s : Section) (d : Definition) :
    separatorFinding file s d ∉ typeFindings c file s d := by
  intro hx
  unfold typeFindings at hx
  split at hx
  · exact List.not_mem_nil hx
  · next type _ =>
    split at hx
    · exact List.not_mem_nil hx
    · split at hx
      · have hm : statePlace s d ++ " has no trailing space!" =
            statePlace s d ++ (" has invalid type " ++ (type ++ "!")) := by
          rw [← String.append_assoc, ← String.append_assoc]
          exact congrArg Diagnostic.message (List.mem_singleton.mp hx)
        -- behind the place, which both begin with, the texts part at their sixth character
        have h := congrArg (fun m : String => m.toList[5]?) ((String.append_right_inj _).mp hm)
        simp [String.toList_append] at h
      · exact List.not_mem_nil hx

theorem separatorFinding_notMem_stateParameterFindings (s : Section) (d : Definition) :
    separatorFinding file s d ∉ stateParameterFindings c file s d := by
  intro hx
  obtain ⟨e, _, he⟩ := List.mem_map.mp hx
  exact Severity.noConfusion (congrArg Diagnostic.severity he)

/-- **The missing space is reported once**, and nothing else on the block reads the same. -/
theorem count_separatorFinding (s : Section) (h : StateHeader) (d : Definition) :
    (stateFindings c file s h d).count (separatorFinding file s d) =
      if h.hasSeparator then 0 else 1 := by
  unfold stateFindings
  rw [List.count_append, List.count_append, List.count_append,
    List.count_eq_zero.mpr (separatorFinding_notMem_numberingFindings s h d),
    List.count_eq_zero.mpr (separatorFinding_notMem_typeFindings s d),
    List.count_eq_zero.mpr (separatorFinding_notMem_stateParameterFindings s d),
    separatorFindings_eq, Nat.zero_add]
  split
  · rfl
  · exact List.count_singleton_self

/-- Inside a definition, a header without any space is reported once, and no other header is. -/
theorem count_separatorFinding_found {st : Scan} {s : Section} {h : StateHeader} {d : Definition}
    (hs : SectionKind.ofName s.name = .state h) (hd : st.enclosing = some d) :
    (st.found c file s).count (separatorFinding file s d) =
      if ' ' ∈ s.name.toList then 0 else 1 := by
  rw [Scan.found_of_state st hs hd, count_separatorFinding, eq_stateHeader_of_ofName hs]
  simp only [hasSeparator_stateHeader]

/-- **A missing space is reported if and only if the header has no space at all.** The header of a state
block has a separator exactly if there is a space somewhere in it, and inside a definition the missing
space is reported once exactly if there is none. Both agree with what the game wants exactly for the
headers that have a space right after the keyword or have none. -/
theorem missing_space_reported_iff_no_space (c : Catalog) (file : FileContext) :
    (∀ name : String, stateKeyword <+: name.toList → ¬ statedefKeyword <+: name.toList →
      ∃ h, SectionKind.ofName name = .state h ∧
        (h.hasSeparator = true ↔ ' ' ∈ name.toList) ∧
        ((h.hasSeparator = true ↔ hasSpace name) ↔ hasSpace name ∨ ' ' ∉ name.toList)) ∧
    ∀ (owners : OwnerMap) (pre : List Section) (s : Section) (post : List Section),
      stateKeyword <+: s.name.toList → ¬ statedefKeyword <+: s.name.toList →
      (∃ q ∈ pre, ∃ h, SectionKind.ofName q.name = .statedef h) →
      ∃ d ds later, lastDefinition? pre = some d ∧
        (((Scan.start owners).run c file pre).step c file s).findings =
          ((Scan.start owners).run c file pre).findings ++ ds ∧
        (validate c file owners ⟨pre ++ s :: post⟩).findings =
          ((Scan.start owners).run c file pre).findings ++ ds ++ later ∧
        ds.count (separatorFinding file s d) = (if ' ' ∈ s.name.toList then 0 else 1) ∧
        ((ds.count (separatorFinding file s d) = 1 ↔ ¬ hasSpace s.name) ↔
          hasSpace s.name ∨ ' ' ∉ s.name.toList) := by
  -- agreement is a matter of the two conditions alone
  have hagree : ∀ name : String, ((' ' ∈ name.toList ↔ hasSpace name) ↔
      hasSpace name ∨ ' ' ∉ name.toList) := by
    intro name
    by_cases hs : hasSpace name
    · simp only [hs, mem_of_hasSpace hs, true_or]
    · simp only [hs, iff_false, false_or]
  refine ⟨fun name hstate hdef => ?_, fun owners pre s post hstate hdef hpre => ?_⟩
  · have hsep := hasSeparator_stateHeader name.toList
    refine ⟨_, ofName_of_stateKeyword hstate hdef, hsep, ?_⟩
    rw [hsep]
    exact hagree name
  · obtain ⟨d, hd⟩ := Option.isSome_iff_exists.mp (isSome_lastDefinition?_iff.mpr hpre)
    obtain ⟨later, hlater⟩ := Scan.exists_findings_run_middle c file (Scan.start owners) pre s post
    have henc : ((Scan.start owners).run c file pre).enclosing = some d := by
      rw [Scan.enclosing_run, hd, Option.some_or]
    have hcount : (((Scan.start owners).run c file pre).found c file s).count
        (separatorFinding file s d) = if ' ' ∈ s.name.toList then 0 else 1 :=
      count_separatorFinding_found (ofName_of_stateKeyword hstate hdef) henc
    refine ⟨d, ((Scan.start owners).run c file pre).found c file s, later, hd, ?_, hlater, hcount, ?_⟩
    · rw [Scan.step_eq]
    · have hone : (((Scan.start owners).run c file pre).found c file s).count
          (separatorFinding file s d) = 1 ↔ ' ' ∉ s.name.toList := by
        rw [hcount]
        by_cases hmem : ' ' ∈ s.name.toList
        · simp only [hmem, if_true, Nat.zero_ne_one, not_true]
        · simp only [hmem, if_false, not_false_eq_true]
      rw [hone, Decidable.not_iff_not]
      exact hagree s.name

/-- The header `state-1` has no space and is reported. -/
theorem missing_space_reported_of_state_minus_one :
    (∃ h, SectionKind.ofName "state-1" = .state h ∧ h.hasSeparator = false) ∧
      ∃ d ds later, lastDefinition? [⟨"statedef -1", 0, []⟩] = some d ∧
        (validate noRules ⟨"st", false⟩ .empty
          ⟨[⟨"statedef -1", 0, []⟩, ⟨"state-1", 1, []⟩]⟩).findings = [] ++ ds ++ later ∧
        ds.count (separatorFinding ⟨"st", false⟩ ⟨"state-1", 1, []⟩ d) = 1 := by
  obtain ⟨hheader, hfound⟩ := missing_space_reported_iff_no_space noRules ⟨"st", false⟩
  obtain ⟨h, hname, hsep, _⟩ := hheader "state-1" (by decide) (by decide)
  obtain ⟨d, ds, later, hd, _, hfindings, hcount, _⟩ := hfound .empty [⟨"statedef -1", 0, []⟩]
    ⟨"state-1", 1, []⟩ [] (by decide) (by decide)
    ⟨⟨"statedef -1", 0, []⟩, List.mem_singleton_self _, ⟨"-1", some (-1)⟩, by decide⟩
  refine ⟨⟨h, hname, ?_⟩, d, ds, later, hd, hfindings, hcount⟩
  exact Bool.eq_false_iff.mpr fun htrue => absurd (hsep.mp htrue) (by decide)

/-- **A space further on hides the missing one**: the header `state-1 , ai` has no space after its
keyword, and a check finds nothing wrong with it. -/
theorem hasSeparator_without_space :
    SectionKind.ofName "state-1 , ai" = .state ⟨.omitted, true⟩ ∧ ¬ hasSpace "state-1 , ai" ∧
      (validate noRules ⟨"st", false⟩ .empty
        ⟨[⟨"statedef -1", 0, []⟩, ⟨"state-1 , ai", 1, []⟩]⟩).findings.count
          (separatorFinding ⟨"st", false⟩ ⟨"state-1 , ai", 1, []⟩ ⟨some (-1), "-1"⟩) = 0 := by
  decide

end FighterCheck.State
