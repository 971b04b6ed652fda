import FighterCheck.Proofs.State.Blocks
import FighterCheck.Proofs.State.Parameters

/-!
# The header of a definition

At the header of a definition the entries are gone through once and the rules twice, with three ways to
hold a name against a key: an entry is known by a name that equals its key in all but ASCII case
(`IsNamed`), a parameter is missing by the look-up that lowers its name by the full rules (`IsMissing`),
and options are compared after trimming (`IsNotOffered`). Each of the four lists that result is here the
list of what meets its condition, in order; the main statement puts them one behind the other.

All of it depends on the section through its name, its keys and its first values alone
(`statedefFindings_congr`), so that a value behind another of its key is never looked at.
-/

namespace FighterCheck.State

open Ini (Document Entry Section)
open Schema (Catalog Property hasProperty)

variable {c : Catalog} {file : FileContext} {rules : List Property} {s : Section} {h : StatedefHeader}

/-! ## The number -/

/-- The finding that the number of a definition is none. -/
def invalidNumberFinding (file : FileContext) (s : Section) (h : StatedefHeader) : Diagnostic :=
  file.finding .warning ("Statedef `" ++ s.name ++ "` in file " ++ file.key ++
    " has invalid statedef number " ++ Text.quote h.rawId ++ "!")

theorem numberFindings_of_none (hid : h.id = none) (owner : Option String) :
    numberFindings file owner s h = [invalidNumberFinding file s h] := by
  unfold numberFindings
  rw [hid]
  rfl

/-- A definition without a number leaves owners and index as they are. -/
theorem registries_validate_append_singleton_of_none (owners : OwnerMap) (pre : List Section)
    (hs : declared? s = none) :
    (validate c file owners ⟨pre ++ [s]⟩).owners = (validate c file owners ⟨pre⟩).owners ∧
      (validate c file owners ⟨pre ++ [s]⟩).index = (validate c file owners ⟨pre⟩).index := by
  unfold validate
  dsimp only
  rw [Scan.run_append, Scan.run_cons, Scan.run_nil, Scan.step_eq]
  dsimp only
  rw [recordDeclared_of_none _ _ hs, recordDeclared_of_none _ _ hs]
  exact ⟨rfl, rfl⟩

/-! ## The entries -/

/-- Some parameter is named like the key, ASCII case aside. -/
def IsNamed (rules : List Property) (key : String) : Prop :=
  ∃ p ∈ rules, Text.sameAscii p.name key = true

instance (rules : List Property) (key : String) : Decidable (IsNamed rules key) :=
  inferInstanceAs (Decidable (∃ p ∈ rules, _))

theorem unknownParameterFindings_eq_filter :
    unknownParameterFindings rules file s h =
      (s.entries.filter fun e => ¬ IsNamed rules e.key).map (unknownFinding file h) := by
  refine congrArg (List.map _) (List.filter_congr fun e _ => ?_)
  rw [Bool.eq_iff_iff, decide_eq_true_iff, Bool.not_eq_true', Bool.eq_false_iff, ne_eq, hasProperty_iff,
    IsNamed]

/-! ## The options -/

/-- The parameter has one slot, for one of its options, and the first value that the section has for it
is none of them, blanks around it and ASCII case aside. -/
def IsNotOffered (s : Section) (p : Property) : Prop :=
  p.types = [.choice] ∧
    ∃ v ∈ s.value? p.name, ∀ o ∈ p.options, Text.sameAscii o (Text.trimmed v) = false

instance (s : Section) (p : Property) : Decidable (IsNotOffered s p) :=
  inferInstanceAs (Decidable (_ ∧ ∃ v ∈ s.value? p.name, _))

/-- The finding that the first value for a parameter is none of its options. -/
def optionFinding (file : FileContext) (s : Section) (h : StatedefHeader) (p : Property) :
    Diagnostic :=
  file.finding .warning (statedefPlace file h ++ " has invalid option " ++
    (s.value? p.name).getD "" ++ " for property " ++ p.name ++ "!")

/-- The first value for a parameter is that of the entry which it finds first. -/
theorem value?_eq_some_iff {p : Property} {v : String} :
    s.value? p.name = some v ↔ ∃ before e after, s.entries = before ++ e :: after ∧ Finds p e ∧
      (∀ x ∈ before, ¬ Finds p x) ∧ e.value = v := by
  rw [Section.value?, Option.map_eq_some_iff]
  simp only [List.find?_eq_some_iff_append, beq_iff_eq, Finds]
  constructor
  · rintro ⟨e, ⟨hfinds, before, after, hsplit, hbefore⟩, hvalue⟩
    exact ⟨before, e, after, hsplit, hfinds, by simpa using hbefore, hvalue⟩
  · rintro ⟨before, e, after, hsplit, hfinds, hbefore, hvalue⟩
    exact ⟨e, ⟨hfinds, before, after, hsplit, by simpa using hbefore⟩, hvalue⟩

theorem optionFinding?_eq {p : Property} (hp : p.isSingleChoice = true) :
    optionFinding? file s h p =
      if IsNotOffered s p then some (optionFinding file s h p) else none := by
  have htypes : p.types = [.choice] := beq_iff_eq.mp hp
  unfold optionFinding?
  cases hv : s.value? p.name with
  | none =>
    rw [if_neg]
    rintro ⟨_, v, hmem, _⟩
    exact nomatch hv.symm.trans hmem
  | some v =>
    have hiff : IsNotOffered s p ↔ ¬ p.permits v = true := by
      rw [IsNotOffered, and_iff_right htypes, Property.permits, Bool.not_eq_true, List.any_eq_false]
      simp [hv]
    by_cases hpermits : p.permits v = true
    · rw [if_neg fun hnot => hiff.mp hnot hpermits]
      exact if_pos hpermits
    · rw [if_pos (hiff.mpr hpermits), optionFinding, hv]
      exact if_neg hpermits

theorem optionFindings_eq :
    optionFindings rules file s h =
      (rules.filter fun p => IsNotOffered s p).map (optionFinding file s h) := by
  rw [optionFindings, List.filterMap_filter, ← List.filterMap_eq_map, List.filterMap_filter]
  refine List.filterMap_congr fun p _ => ?_
  by_cases hp : p.isSingleChoice = true
  · rw [if_pos hp, optionFinding?_eq hp]
    simp
  · have hnot : ¬ IsNotOffered s p := fun hnot => hp (beq_iff_eq.mpr hnot.1)
    simp [hp, hnot]

/-! ## What the findings depend on -/

/-- **What is found at the header of a definition depends on its name, its keys and its first
values.** -/
theorem statedefFindings_congr {t : Section} (hname : t.name = s.name) (hkeys : t.keys = s.keys)
    (hvalues : ∀ key, t.value? key = s.value? key) (owner : Option String) :
    statedefFindings c file owner t h = statedefFindings c file owner s h := by
  have hnumber : numberFindings file owner t h = numberFindings file owner s h := by
    unfold numberFindings
    rw [hname]
  have hunknown : ∀ u : Section, unknownParameterFindings c.statedef.properties file u h =
      (u.keys.filter fun key => !hasProperty c.statedef.properties key).map fun key =>
        file.finding .warning (statedefPlace file h ++ " has invalid parameter " ++ key ++ "!") := by
    intro u
    rw [Section.keys, List.filter_map, List.map_map]
    rfl
  have hmissing : missingParameterFindings c.statedef.properties file t h =
      missingParameterFindings c.statedef.properties file s h := by
    unfold missingParameterFindings Section.hasKey
    simp only [hvalues]
  have hoption : optionFindings c.statedef.properties file t h =
      optionFindings c.statedef.properties file s h := by
    unfold optionFindings optionFinding?
    simp only [hvalues]
  rw [statedefFindings, statedefFindings, hnumber, hunknown, hunknown, hkeys, hmissing, hoption]

/-- A value behind another of its key is not the first for any key. -/
theorem value?_of_repeated {key : String} {before after : List Entry}
    (hkey : key ∈ before.map Entry.key) (name : String) (position : Nat) (v w query : String) :
    (⟨name, position, before ++ ⟨key, w⟩ :: after⟩ : Section).value? query =
      (⟨name, position, before ++ ⟨key, v⟩ :: after⟩ : Section).value? query := by
  unfold Section.value?
  dsimp only
  rw [List.find?_append, List.find?_append]
  cases hfirst : before.find? (·.key == Text.lowercase query) with
  | some e => rw [Option.some_or, Option.some_or]
  | none =>
    have hne : (key == Text.lowercase query) = false := by
      obtain ⟨e, he, rfl⟩ := List.mem_map.mp hkey
      exact Bool.eq_false_iff.mpr (List.find?_eq_none.mp hfirst e he)
    rw [List.find?_cons, List.find?_cons, hne]

/-- A check does not see a value behind another of its key. -/
theorem validate_of_repeated {name : String} (hs : SectionKind.ofName name = .statedef h)
    {key : String} {before after : List Entry} (hkey : key ∈ before.map Entry.key) (owners : OwnerMap)
    (pre : List Section) (position : Nat) (v w : String) (post : List Section) :
    validate c file owners ⟨pre ++ ⟨name, position, before ++ ⟨key, w⟩ :: after⟩ :: post⟩ =
      validate c file owners ⟨pre ++ ⟨name, position, before ++ ⟨key, v⟩ :: after⟩ :: post⟩ := by
  have hstep : ∀ st : Scan, st.step c file ⟨name, position, before ++ ⟨key, w⟩ :: after⟩ =
      st.step c file ⟨name, position, before ++ ⟨key, v⟩ :: after⟩ := by
    intro st
    rw [Scan.step_eq, Scan.step_eq, Scan.found_of_statedef st hs, Scan.found_of_statedef st hs,
      statedefFindings_congr (t := ⟨name, position, before ++ ⟨key, w⟩ :: after⟩)
        (s := ⟨name, position, before ++ ⟨key, v⟩ :: after⟩) rfl (by simp [Section.keys])
        (value?_of_repeated hkey name position v w)]
    rfl
  unfold validate
  dsimp only
  rw [Scan.run_append, Scan.run_append, Scan.run_cons, Scan.run_cons, hstep]

/-! ## Headers in a file -/

/-- **The header of a definition yields exactly what its number, its entries and the rules call for.** In
any file, with any owners and any report to begin with, it adds in this order: for a number, that it has
been declared before, if it has an owner by then and the file is not the common one, and for what is no
number, one warning, owners and index staying as they are; one warning for each entry that no rule names,
in order and repeated if it is; one for each parameter that is missing, in the order of the rules; and
one for each parameter of one slot for an option, in that order too, whose first value is none of its
options. The first value is that of the entry found first, and one behind another of its key can be
changed without any effect on the check. -/
theorem definition_judged_by_number_entries_and_rules (c : Catalog) (file : FileContext) (l : Ledger)
    (pre : List Section) (s : Section) (post : List Section) {h : StatedefHeader}
    (hs : SectionKind.ofName s.name = .statedef h) :
    (∃ ds onNumber later,
      (l.check c (file, ⟨pre ++ s :: post⟩)).report.diagnostics =
        l.report.diagnostics ++ (validate c file l.owners ⟨pre⟩).findings ++ ds ++ later ∧
      (validate c file l.owners ⟨pre ++ [s]⟩).findings =
        (validate c file l.owners ⟨pre⟩).findings ++ ds ∧
      ds = onNumber ++
        (s.entries.filter fun e => ¬ IsNamed c.statedef.properties e.key).map
          (unknownFinding file h) ++
        (c.statedef.properties.filter fun p => IsMissing s p).map (missingFinding file h) ++
        (c.statedef.properties.filter fun p => IsNotOffered s p).map (optionFinding file s h) ∧
      (∀ id, h.id = some id →
        onNumber = if file.isCommon then []
          else ((l.owners.find? id).or ((declaration? id pre).map fun _ => file.key)).toList.map
            (repeatFinding file id)) ∧
      (h.id = none → onNumber = [invalidNumberFinding file s h] ∧
        (validate c file l.owners ⟨pre ++ [s]⟩).owners = (validate c file l.owners ⟨pre⟩).owners ∧
        (validate c file l.owners ⟨pre ++ [s]⟩).index = (validate c file l.owners ⟨pre⟩).index)) ∧
    (∀ p, IsMissing s p ↔ p.optional = false ∧ s.hasKey p.name = false) ∧
    (∀ (p : Property) v, s.value? p.name = some v ↔ ∃ before e after,
      s.entries = before ++ e :: after ∧ Finds p e ∧ (∀ x ∈ before, ¬ Finds p x) ∧ e.value = v) ∧
    ∀ before key v w after, s.entries = before ++ ⟨key, v⟩ :: after → key ∈ before.map Entry.key →
      validate c file l.owners ⟨pre ++ { s with entries := before ++ ⟨key, w⟩ :: after } :: post⟩ =
        validate c file l.owners ⟨pre ++ s :: post⟩ := by
  refine ⟨?_, fun p => isMissing_iff, fun p v => value?_eq_some_iff,
    fun before key v w after hsplit hkey => ?_⟩
  · obtain ⟨later, hlater⟩ := exists_report_check_middle c file l pre s post
    have hfindings : (validate c file l.owners ⟨pre ++ [s]⟩).findings = _ :=
      findings_validate_append_singleton l.owners pre s
    rw [Scan.found_of_statedef _ hs, statedefFindings, unknownParameterFindings_eq_filter,
      missingParameterFindings_eq, optionFindings_eq] at hlater hfindings
    refine ⟨_, _, later, hlater, hfindings, rfl, fun id hid => ?_,
      fun hid => ⟨numberFindings_of_none hid _, ?_⟩⟩
    · rw [numberFindings_of_some hid, hid, Option.bind_some, Scan.owners_run, find?_recordAll]
      rfl
    · exact registries_validate_append_singleton_of_none l.owners pre
        ((declared?_of_statedef hs).trans hid)
  · obtain ⟨name, position, entries⟩ := s
    obtain rfl : entries = before ++ ⟨key, v⟩ :: after := hsplit
    exact validate_of_repeated hs hkey l.owners pre position v w post

/-- Rules for definitions with a parameter of each kind: one option, several options, two slots, and a
number. -/
def mixedRules : Catalog :=
  ⟨⟨"statedef", .int, true, [⟨"Type", [.choice], false, ["S", "C"]⟩,
    ⟨"Flags", [.choices], true, ["a"]⟩, ⟨"Pair", [.choice, .choice], true, ["x"]⟩,
    ⟨"Anim", [.int], false, []⟩]⟩, ⟨"state", .int, true, []⟩, .empty⟩

/-- A header without a number, whose first type is not offered, and the second is. -/
def mixedSection : Section :=
  ⟨"statedef x", 1, [⟨"type", "Q"⟩, ⟨"foo", "1"⟩, ⟨"flags", "z"⟩, ⟨"pair", "z"⟩, ⟨"type", " s "⟩,
    ⟨"foo", "2"⟩]⟩

/-- Of three parameters with a value that is no option, one is found; the number 1 in a second header is
repeated; and the second type can be anything. -/
theorem definition_judged_without_number_and_with_repeated_one :
    (∃ ds later,
      (Ledger.empty.check mixedRules (⟨"st", false⟩,
        ⟨[⟨"statedef 1", 0, []⟩] ++ mixedSection :: []⟩)).report.diagnostics =
          [] ++ (validate mixedRules ⟨"st", false⟩ .empty ⟨[⟨"statedef 1", 0, []⟩]⟩).findings ++ ds ++
            later ∧
      ds.map Diagnostic.text =
        ["[WARNING] Statedef `statedef x` in file st has invalid statedef number \"x\"!",
          "[WARNING] Statedef x in file st has invalid parameter foo!",
          "[WARNING] Statedef x in file st has invalid parameter foo!",
          "[WARNING] Statedef x in file st is missing required parameter Anim!",
          "[WARNING] Statedef x in file st has invalid option Q for property Type!"]) ∧
    (∃ ds later,
      (Ledger.empty.check noRules (⟨"st", false⟩,
        ⟨[⟨"statedef 1", 0, []⟩] ++ ⟨"statedef 01", 1, []⟩ :: []⟩)).report.diagnostics =
          [] ++ [] ++ ds ++ later ∧
      ds = [repeatFinding ⟨"st", false⟩ 1 "st"]) ∧
    validate mixedRules ⟨"st", false⟩ .empty ⟨[] ++ { mixedSection with
      entries := mixedSection.entries.take 4 ++ ⟨"type", "Z"⟩ :: [⟨"foo", "2"⟩] } :: []⟩ =
      validate mixedRules ⟨"st", false⟩ .empty ⟨[] ++ mixedSection :: []⟩ := by
  obtain ⟨⟨ds, _, later, hreport, _, hds, _, hnone⟩, _⟩ :=
    definition_judged_by_number_entries_and_rules mixedRules ⟨"st", false⟩ .empty
      [⟨"statedef 1", 0, []⟩] mixedSection [] (h := ⟨"x", none⟩) (by decide)
  obtain ⟨⟨es, _, further, hsecond, _, hes, hsome, _⟩, _⟩ :=
    definition_judged_by_number_entries_and_rules noRules ⟨"st", false⟩ .empty
      [⟨"statedef 1", 0, []⟩] ⟨"statedef 01", 1, []⟩ [] (h := ⟨"01", some 1⟩) (by decide)
  obtain ⟨_, _, _, hrepeated⟩ := definition_judged_by_number_entries_and_rules
    mixedRules ⟨"st", false⟩ .empty [] mixedSection [] (h := ⟨"x", none⟩) (by decide)
  refine ⟨⟨ds, later, hreport, ?_⟩, ⟨es, further, hsecond, ?_⟩,
    hrepeated (mixedSection.entries.take 4) "type" " s " "Z" [⟨"foo", "2"⟩] rfl (by decide)⟩
  · rw [hds, (hnone rfl).1]
    decide +kernel
  · rw [hes, hsome 1 rfl]
    decide

end FighterCheck.State
