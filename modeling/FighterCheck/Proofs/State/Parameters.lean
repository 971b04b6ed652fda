import FighterCheck.Proofs.Ini.Grammar
import FighterCheck.Proofs.State.Findings
import FighterCheck.Proofs.Text.AsciiCase
import Mathlib.Data.List.Basic

/-!
# Which parameters of a definition are unknown, and which are missing

The rules for definitions are held against the entries of a header in two ways. A parameter is missing if
looking up its name finds no entry, and that lowers the name by the full rules, as the key was lowered
when it was read. An entry is unknown if no name equals its key in all but ASCII case.

Of the two the second sees less: a name that it matches is one that the look-up finds, and the converse
holds exactly for names whose capitals are all ASCII letters (`sameAscii_key_iff`). So an entry that is
spelled as the rules have it is never missed, but it is found unknown if the rules spell it with any
other capital.
-/

namespace FighterCheck.State

open Ini (Document Entry HasParts Says Section)
open Schema (Catalog Property hasProperty)
open Text (OnlyAsciiCapitals asciiFold lowercase sameAscii sameAscii_iff trim)

/-- Looking up the name of the parameter finds the entry. -/
def Finds (p : Property) (e : Entry) : Prop := e.key = lowercase p.name

instance (p : Property) (e : Entry) : Decidable (Finds p e) := inferInstanceAs (Decidable (_ = _))

/-- The names of the parameters that find the entry have capitals besides `A` to `Z`. -/
def IsUnknown (rules : List Property) (e : Entry) : Prop :=
  ∀ p ∈ rules, Finds p e → ¬ OnlyAsciiCapitals p.name

instance (rules : List Property) (e : Entry) : Decidable (IsUnknown rules e) :=
  inferInstanceAs (Decidable (∀ p ∈ rules, _))

/-- The parameter may not be left out, and its name finds no entry. -/
def IsMissing (s : Section) (p : Property) : Prop :=
  p.optional = false ∧ ∀ e ∈ s.entries, ¬ Finds p e

instance (s : Section) (p : Property) : Decidable (IsMissing s p) :=
  inferInstanceAs (Decidable (_ ∧ _))

/-- The line has the name before its `=`, character by character. -/
def Spells (raw : List Char) (name : String) : Prop :=
  ∃ key value, HasParts (trim raw) key value ∧ trim key = name.toList

/-- The finding that no rule knows the key. -/
def unknownFinding (file : FileContext) (h : StatedefHeader) (e : Entry) : Diagnostic :=
  file.finding .warning (statedefPlace file h ++ " has invalid parameter " ++ e.key ++ "!")

/-- The finding that a parameter is left out that may not be. -/
def missingFinding (file : FileContext) (h : StatedefHeader) (p : Property) : Diagnostic :=
  file.finding .warning (statedefPlace file h ++ " is missing required parameter " ++ p.name ++ "!")

variable {rules : List Property} {p : Property} {s : Section} {e : Entry} {raw : List Char}

/-! ## Names and keys -/

/-- **A name that equals a key in all but ASCII case finds it, and has no capitals but `A` to `Z`**; and
every such name equals the keys that it finds. -/
theorem sameAscii_key_iff (hkey : lowercase e.key = e.key) :
    sameAscii p.name e.key = true ↔ Finds p e ∧ OnlyAsciiCapitals p.name := by
  rw [sameAscii_iff, Text.asciiFold_eq_self_of_lowercase hkey, ← Text.lowercase_eq_asciiFold_iff, Finds]
  constructor
  · intro hfold
    have hlower : lowercase p.name = e.key := by
      rw [← Text.lowercase_asciiFold, hfold, hkey]
    exact ⟨hlower.symm, hlower.trans hfold.symm⟩
  · rintro ⟨hfinds, hagree⟩
    rw [← hagree, hfinds]

theorem hasProperty_key_eq_false_iff (hkey : lowercase e.key = e.key) :
    hasProperty rules e.key = false ↔ IsUnknown rules e := by
  rw [hasProperty, List.any_eq_false, IsUnknown]
  simp only [sameAscii_key_iff hkey, not_and]

theorem hasKey_iff : s.hasKey p.name = true ↔ ∃ e ∈ s.entries, Finds p e := by
  rw [Section.hasKey, Section.value?, Option.isSome_map, List.find?_isSome]
  simp only [beq_iff_eq, Finds]

theorem isMissing_iff : IsMissing s p ↔ p.optional = false ∧ s.hasKey p.name = false := by
  refine and_congr_right fun _ => ?_
  rw [← Bool.not_eq_true, hasKey_iff, not_exists]
  simp only [not_and]

/-- A line has one way to be cut into a key and a value. -/
theorem finds_of_spells (hsaid : Says raw (.entry e)) (hspells : Spells raw p.name) : Finds p e := by
  obtain ⟨key, value, hparts, hname⟩ := hspells
  cases hsaid with
  | entry _ hparts' =>
    obtain ⟨_, hcut, _⟩ := Ini.hasParts_iff.mp hparts
    obtain ⟨_, hcut', _⟩ := Ini.hasParts_iff.mp hparts'
    obtain ⟨rfl, _⟩ := by simpa using hcut.symm.trans hcut'
    rw [Finds, hname]
    rfl

/-! ## Findings -/

variable {file : FileContext} {h : StatedefHeader}

theorem unknownParameterFindings_eq (hs : ∀ e ∈ s.entries, lowercase e.key = e.key) :
    unknownParameterFindings rules file s h =
      (s.entries.filter fun e => IsUnknown rules e).map (unknownFinding file h) := by
  refine congrArg (List.map _) (List.filter_congr fun e he => ?_)
  rw [Bool.eq_iff_iff, Bool.not_eq_true', hasProperty_key_eq_false_iff (hs e he),
    decide_eq_true_iff]

theorem missingParameterFindings_eq :
    missingParameterFindings rules file s h =
      (rules.filter fun p => IsMissing s p).map (missingFinding file h) := by
  refine congrArg (List.map _) (List.filter_congr fun p _ => ?_)
  rw [Bool.eq_iff_iff, Bool.and_eq_true, Bool.not_eq_true', Bool.not_eq_true', decide_eq_true_iff,
    isMissing_iff]

/-- **A definition's entry is found unknown if and only if every parameter that finds it is spelled with
capitals besides `A` to `Z`.** In a document that is read, what is found at the header of a definition,
after what is found in the sections before it, is what there is to its number, its unknown entries in
order, the parameters it is missing in order, and the options that are not permitted. A parameter is
missing if it may not be left out and its look-up finds no entry. Every entry is what a line of the text
says, and if that line spells the name of a parameter, then the parameter finds the entry: it is not
missing, and the entry is not unknown if the name's capitals are all ASCII letters. If those of every
name are, then an entry is unknown if and only if no parameter finds it. -/
theorem entry_unknown_iff_found_by_accented_capitals_alone (c : Catalog) (file : FileContext)
    (owners : OwnerMap) {text : String} {d : Document} (hread : Document.read text = .ok d)
    {pre post : List Section} {s : Section} (hd : d.sections = pre ++ s :: post)
    {h : StatedefHeader} (hs : SectionKind.ofName s.name = .statedef h) :
    (∃ after, (validate c file owners d).findings = (validate c file owners ⟨pre⟩).findings ++
      (numberFindings file (h.id.bind (validate c file owners ⟨pre⟩).owners.find?) s h ++
        (s.entries.filter fun e => IsUnknown c.statedef.properties e).map (unknownFinding file h) ++
        (c.statedef.properties.filter fun p => IsMissing s p).map (missingFinding file h) ++
        optionFindings c.statedef.properties file s h) ++ after) ∧
    (∀ p, s.hasKey p.name = true ↔ ∃ e ∈ s.entries, Finds p e) ∧
    (∀ e ∈ s.entries, ∃ raw ∈ Text.lines text.toList, Says raw (.entry e)) ∧
    (∀ e ∈ s.entries, ∀ p ∈ c.statedef.properties, ∀ raw, Says raw (.entry e) → Spells raw p.name →
      ¬ IsMissing s p ∧ (OnlyAsciiCapitals p.name → ¬ IsUnknown c.statedef.properties e)) ∧
    ((∀ p ∈ c.statedef.properties, OnlyAsciiCapitals p.name) → ∀ e ∈ s.entries,
      IsUnknown c.statedef.properties e ↔ ∀ p ∈ c.statedef.properties, ¬ Finds p e) := by
  have hmem : s ∈ d.sections := hd ▸ List.mem_append_right _ List.mem_cons_self
  have hlower : ∀ e ∈ s.entries, lowercase e.key = e.key := fun e he =>
    (((Ini.wellFormed_of_read hread).sections s hmem).entries e he).key_lower
  refine ⟨?_, fun p => hasKey_iff, fun e he => ?_, fun e he p hp raw hsaid hspells => ?_,
    fun hall e he => ⟨fun hunknown p hp hfinds => hunknown p hp hfinds (hall p hp),
      fun hnone p hp hfinds => absurd hfinds (hnone p hp)⟩⟩
  · obtain ⟨after, hfound⟩ :=
      Scan.exists_findings_run_middle c file (Scan.start owners) pre s post
    refine ⟨after, ?_⟩
    unfold validate
    dsimp only
    rw [hd, hfound, Scan.found_of_statedef _ hs, statedefFindings,
      unknownParameterFindings_eq hlower, missingParameterFindings_eq]
  · obtain ⟨raw, hraw, hread⟩ := Ini.exists_line_of_mem_entries hread hmem he
    exact ⟨raw, hraw, Ini.Line.read_eq_iff.mp hread⟩
  · have hfinds := finds_of_spells hsaid hspells
    exact ⟨fun hmissing => hmissing.2 e he hfinds, fun honly hunknown => hunknown p hp hfinds honly⟩

/-- Rules for definitions that want two parameters, the second with an accented capital. -/
def accentedCatalog : Catalog :=
  ⟨⟨"statedef", .int, true, [⟨"Type", [.int], false, []⟩, ⟨"É", [.int], false, []⟩]⟩,
    ⟨"state", .int, true, []⟩, .empty⟩

/-- A definition that spells both parameters as the rules do. -/
def accentedText : String := "[Statedef 1]\nType = 1\nÉ = 1"

/-- The header of this definition. -/
def accentedSection : Section := ⟨"statedef 1", 0, [⟨"type", "1"⟩, ⟨"é", "1"⟩]⟩

theorem read_accentedText : Document.read accentedText = .ok ⟨[accentedSection]⟩ := by decide +kernel

theorem says_type : Says "Type = 1".toList (.entry ⟨"type", "1"⟩) :=
  Ini.Line.read_eq_iff.mp (by decide +kernel)

theorem spells_type : Spells "Type = 1".toList "Type" :=
  ⟨"Type ".toList, " 1".toList, Ini.hasParts_iff.mpr ⟨" 1".toList, by decide, by decide⟩, by decide⟩

/-- Of the two entries, the one whose name has an ASCII capital is known. -/
theorem type_found_and_not_unknown :
    ¬ IsMissing accentedSection ⟨"Type", [.int], false, []⟩ ∧
      ¬ IsUnknown accentedCatalog.statedef.properties ⟨"type", "1"⟩ := by
  obtain ⟨_, _, _, hspelled, _⟩ := @entry_unknown_iff_found_by_accented_capitals_alone
    accentedCatalog ⟨"st", false⟩ .empty _ _ read_accentedText [] [] accentedSection rfl
    ⟨"1", some 1⟩ (by decide)
  obtain ⟨hfound, hknown⟩ := hspelled ⟨"type", "1"⟩ List.mem_cons_self
    ⟨"Type", [.int], false, []⟩ List.mem_cons_self _ says_type spells_type
  exact ⟨hfound, hknown (by decide)⟩

/-- The other entry is spelled as the rules have it too, and is found unknown all the same. -/
theorem accented_capital_spelled_and_found_unknown :
    Document.read accentedText = .ok ⟨[accentedSection]⟩ ∧
      (∃ raw ∈ Text.lines accentedText.toList, Says raw (.entry ⟨"é", "1"⟩) ∧
        Spells raw "É") ∧
      accentedSection.hasKey "É" = true ∧
      (validate accentedCatalog ⟨"st", false⟩ .empty ⟨[accentedSection]⟩).findings =
        [⟨"Statedef 1 in file st has invalid parameter é!", .warning, some "st"⟩] := by
  exact ⟨read_accentedText, ⟨"É = 1".toList, by decide +kernel,
    Ini.Line.read_eq_iff.mp (by decide +kernel),
    ⟨"É ".toList, " 1".toList, Ini.hasParts_iff.mpr ⟨" 1".toList, by decide, by decide⟩,
      by decide +kernel⟩⟩, by decide +kernel, by decide +kernel⟩

end FighterCheck.State
