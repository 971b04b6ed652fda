import FighterCheck.Proofs.State.Ledger
import FighterCheck.Proofs.State.Separator

/-!
# State blocks and the definition around them

A scan carries one definition along and overwrites it at each header of a definition. For a state
block this comes to a rule about the whole file: it is judged by the definition that stands nearest
before it, whatever number that has and whatever sections lie between, and without such a definition
it is a stray.

What a block in a definition is found to lack is said here condition by condition, beside the lists of
findings of the scan: its number (`Misnumbered`), its space, its type (`IsWrongType`), and each of its
entries (`IsKnownKey`). The main statement puts these together in the order in which they are reported.
-/

namespace FighterCheck.State

open Ini (Document Section)
open Schema (Catalog Property hasProperty)

variable {c : Catalog} {file : FileContext} {s : Section}

/-! ## The nearest definition -/

/-- Without a definition there is none that stands last. -/
theorem lastDefinition?_eq_none {ss : List Section} (h : ∀ q ∈ ss, definition? q = none) :
    lastDefinition? ss = none := by
  rw [lastDefinition?, List.findSome?_eq_none_iff]
  exact fun q hq => h q (List.mem_reverse.mp hq)

/-- **The definition that stands last** is the one after which no other is opened. -/
theorem lastDefinition?_of_nearest (far : List Section) {q : Section} {near : List Section}
    {d : Definition} (hq : definition? q = some d) (hnear : ∀ r ∈ near, definition? r = none) :
    lastDefinition? (far ++ q :: near) = some d := by
  have hlast : near.reverse.findSome? definition? = none := lastDefinition?_eq_none hnear
  rw [lastDefinition?, List.reverse_append, List.reverse_cons, List.append_assoc,
    List.findSome?_append, hlast, Option.none_or, List.findSome?_append, List.findSome?_singleton,
    hq, Option.some_or]

/-! ## The number -/

/-- The number of a state block is missing, none, or another than that of its definition. -/
def Misnumbered (n : Number) (id : Option Int32) : Prop :=
  n = .omitted ∨ (∃ raw, n = .malformed raw) ∨ ∃ m k, n = .number m ∧ id = some k ∧ m ≠ k

/-- A number differs from that of the definition if the definition has one. -/
theorem misnumbered_number_iff {m : Int32} {id : Option Int32} :
    Misnumbered (.number m) id ↔ ∃ k, id = some k ∧ m ≠ k := by
  constructor
  · rintro (h | ⟨raw, h⟩ | ⟨_, k, h, hid, hne⟩)
    · exact Number.noConfusion h
    · exact Number.noConfusion h
    · exact ⟨k, hid, Number.number.inj h ▸ hne⟩
  · rintro ⟨k, hid, hne⟩
    exact Or.inr (Or.inr ⟨m, k, rfl, hid, hne⟩)

instance (n : Number) (id : Option Int32) : Decidable (Misnumbered n id) :=
  match n with
  | .omitted => .isTrue (Or.inl rfl)
  | .malformed raw => .isTrue (Or.inr (Or.inl ⟨raw, rfl⟩))
  | .number m =>
    decidable_of_iff (∃ k ∈ id, m ≠ k) (Iff.symm misnumbered_number_iff)

/-- The finding on the number of a state block. -/
def numberingFinding (file : FileContext) (s : Section) (n : Number) (d : Definition) :
    Diagnostic :=
  file.finding .debug ("State `" ++ s.name ++
    (if n = .omitted then "` has number omitted for statedef group "
      else "` not numbered correctly for statedef group ") ++ d.label ++ "!")

theorem numberingFindings_eq (s : Section) (h : StateHeader) (d : Definition) :
    numberingFindings file s h d =
      if Misnumbered h.number d.id then [numberingFinding file s h.number d] else [] := by
  unfold numberingFindings
  cases h.number with
  | omitted =>
    rw [if_pos (show Misnumbered .omitted d.id from Or.inl rfl)]
    rfl
  | malformed raw =>
    rw [if_pos (show Misnumbered (.malformed raw) d.id from Or.inr (Or.inl ⟨raw, rfl⟩))]
    rfl
  | number m =>
    have hiff : (d.id.any fun k => k ≠ m) = true ↔ Misnumbered (.number m) d.id := by
      rw [misnumbered_number_iff, Option.any_eq_true]
      simp only [decide_eq_true_eq, ne_comm]
    simp only [← hiff]
    rfl

/-! ## The type -/

/-- The first type names a controller but none that the rules for state blocks list. -/
def IsWrongType (c : Catalog) (s : Section) : Prop :=
  ∃ type ∈ s.value? "type", c.isController type = true ∧
    ∃ p ∈ c.state.property? "type", p.permits type = false

instance (c : Catalog) (s : Section) : Decidable (IsWrongType c s) :=
  inferInstanceAs (Decidable (∃ type ∈ s.value? "type", _))

/-- The type of a state block in words. -/
def typeLabel (s : Section) : String := (s.value? "type").getD "(none)"

/-- The finding on the type of a state block. -/
def typeFinding (file : FileContext) (s : Section) (d : Definition) : Diagnostic :=
  file.finding .error (statePlace s d ++ " has invalid type " ++ typeLabel s ++ "!")

theorem typeFindings_eq (s : Section) (d : Definition) :
    typeFindings c file s d = if IsWrongType c s then [typeFinding file s d] else [] := by
  unfold typeFindings
  split
  · next hnone =>
    rw [if_neg]
    rintro ⟨type, htype, _⟩
    exact nomatch hnone.symm.trans htype
  · next type htype =>
    split
    · next hnone =>
      rw [if_neg]
      rintro ⟨_, _, _, p, hp, _⟩
      exact nomatch hnone.symm.trans hp
    · next p hp =>
      have hiff : (c.isController type && !p.permits type) = true ↔ IsWrongType c s := by
        simp [IsWrongType, htype, hp]
      simp only [hiff, typeFinding, typeLabel, htype, Option.getD_some]

/-! ## The entries -/

/-- A key that a state block may hold: that of a trigger, of a parameter of state blocks, or of a
parameter of the controller that its first type names. -/
def IsKnownKey (c : Catalog) (s : Section) (key : String) : Prop :=
  "trigger".toList <+: key.toList ∨ (∃ p ∈ c.state.properties, Text.sameAscii p.name key = true) ∨
    ∃ type ∈ s.value? "type", ∃ d ∈ c.controller? type,
      ∃ p ∈ d.properties, Text.sameAscii p.name key = true

instance (c : Catalog) (s : Section) (key : String) : Decidable (IsKnownKey c s key) :=
  inferInstanceAs (Decidable (_ ∨ _))

theorem hasProperty_iff {ps : List Property} {key : String} :
    hasProperty ps key = true ↔ ∃ p ∈ ps, Text.sameAscii p.name key = true := List.any_eq_true

/-- The parameters of the controller are those of the one that the first type names, if there is
such. -/
theorem hasProperty_controllerRules_iff {key : String} :
    hasProperty (controllerRules c s) key = true ↔
      ∃ type ∈ s.value? "type", ∃ d ∈ c.controller? type,
        ∃ p ∈ d.properties, Text.sameAscii p.name key = true := by
  rw [hasProperty_iff, controllerRules]
  cases s.value? "type" with
  | none => simp
  | some type =>
    rw [Option.map_some, Option.getD_some, Schema.Catalog.controllerProperties]
    cases hd : c.controller? type with
    | none => simp [hd]
    | some d => simp [hd]

theorem isKnownKey_iff {key : String} :
    (isTrigger key || hasProperty c.state.properties key ||
      hasProperty (controllerRules c s) key) = true ↔ IsKnownKey c s key := by
  rw [Bool.or_eq_true, Bool.or_eq_true, or_assoc, hasProperty_controllerRules_iff, hasProperty_iff,
    isTrigger, List.isPrefixOf_iff_prefix]
  rfl

/-- The finding on an entry of a state block. -/
def entryFinding (file : FileContext) (s : Section) (d : Definition) (key : String) : Diagnostic :=
  file.finding .info ("State `" ++ s.name ++ "` with type " ++ typeLabel s ++
    " in statedef group " ++ d.label ++ " has invalid parameter " ++ key ++ "!")

theorem stateParameterFindings_eq (s : Section) (d : Definition) :
    stateParameterFindings c file s d =
      (s.entries.filter fun e => ¬ IsKnownKey c s e.key).map fun e =>
        entryFinding file s d e.key := by
  unfold stateParameterFindings
  refine congrArg (List.map _) (List.filter_congr fun e _ => ?_)
  rw [Bool.eq_iff_iff, decide_eq_true_iff, Bool.not_eq_true', Bool.eq_false_iff, ne_eq,
    isKnownKey_iff]

/-! ## Blocks in a file -/

/-- **What a section adds to the findings on a file** is what is found in it after the sections before
it. -/
theorem findings_validate_append_singleton (owners : OwnerMap) (pre : List Section) (s : Section) :
    (validate c file owners ⟨pre ++ [s]⟩).findings =
      (validate c file owners ⟨pre⟩).findings ++
        ((Scan.start owners).run c file pre).found c file s := by
  show ((Scan.start owners).run c file (pre ++ [s])).findings = _
  rw [Scan.run_append, Scan.run_cons, Scan.run_nil, Scan.step_eq]
  rfl

/-- What is found in a section of a file stands in the report between what is found before it and what
is found after it. -/
theorem exists_report_check_middle (c : Catalog) (file : FileContext) (l : Ledger)
    (pre : List Section) (s : Section) (post : List Section) :
    ∃ later, (l.check c (file, ⟨pre ++ s :: post⟩)).report.diagnostics =
      l.report.diagnostics ++ (validate c file l.owners ⟨pre⟩).findings ++
        ((Scan.start l.owners).run c file pre).found c file s ++ later := by
  obtain ⟨later, hlater⟩ := Scan.exists_findings_run_middle c file (Scan.start l.owners) pre s post
  refine ⟨later, ?_⟩
  show l.report.diagnostics ++ ((Scan.start l.owners).run c file (pre ++ s :: post)).findings = _
  rw [hlater]
  simp only [List.append_assoc]
  rfl

/-- The definition around a section is the one that stands last before it. -/
theorem enclosing_run_start (c : Catalog) (file : FileContext) (owners : OwnerMap)
    (pre : List Section) : ((Scan.start owners).run c file pre).enclosing = lastDefinition? pre := by
  rw [Scan.enclosing_run]
  exact Option.or_none

/-- **A state block is judged by the nearest definition before it.** In any file, with any owners and
any report to begin with, a state block before which no definition stands adds the one finding that it
is a stray, whatever its entries are. Otherwise, `d` being the definition nearest before it, it adds in
this order: a note if its number is missing, none, or not that of `d` (when `d` has one); an error if
its header has no separator; an error if its first type is that of a controller but not permitted; and
for each entry with an unknown key, in order and repeated if it is, one finding worth knowing. -/
theorem state_block_judged_by_nearest_definition (c : Catalog) (file : FileContext) (l : Ledger)
    (pre : List Section) (s : Section) (post : List Section) {h : StateHeader}
    (hs : SectionKind.ofName s.name = .state h) :
    ∃ ds later,
      (l.check c (file, ⟨pre ++ s :: post⟩)).report.diagnostics =
        l.report.diagnostics ++ (validate c file l.owners ⟨pre⟩).findings ++ ds ++ later ∧
      (validate c file l.owners ⟨pre ++ [s]⟩).findings =
        (validate c file l.owners ⟨pre⟩).findings ++ ds ∧
      ((∀ q ∈ pre, definition? q = none) →
        ds = [file.finding .info ("State `" ++ s.name ++ "` found outside of statedef group!")]) ∧
      ∀ far q near d, pre = far ++ q :: near → definition? q = some d →
        (∀ r ∈ near, definition? r = none) →
        ds = (if Misnumbered h.number d.id then [numberingFinding file s h.number d] else []) ++
          (if h.hasSeparator then [] else [separatorFinding file s d]) ++
          (if IsWrongType c s then [typeFinding file s d] else []) ++
          (s.entries.filter fun e => ¬ IsKnownKey c s e.key).map fun e =>
            entryFinding file s d e.key := by
  obtain ⟨later, hlater⟩ := exists_report_check_middle c file l pre s post
  refine ⟨_, later, hlater, findings_validate_append_singleton l.owners pre s, fun hnone => ?_,
    fun far q near d hpre hq hnear => ?_⟩
  · have henc := (enclosing_run_start c file l.owners pre).trans
      (lastDefinition?_eq_none hnone)
    rw [Scan.found_of_stray _ hs henc, strayFindings]
  · have henc : ((Scan.start l.owners).run c file pre).enclosing = some d := by
      rw [enclosing_run_start, hpre, lastDefinition?_of_nearest far hq hnear]
    rw [Scan.found_of_state _ hs henc, stateFindings, numberingFindings_eq, separatorFindings_eq,
      typeFindings_eq, stateParameterFindings_eq]

/-- The rules for state blocks of one type, beside the one controller, which is of another. -/
def narrowRules : Catalog where
  statedef := ⟨"statedef", .int, true, []⟩
  state := ⟨"state", .int, true, [⟨"type", [.choice], false, ["Null"]⟩]⟩
  controllerMap := NameMap.insert .empty "Pause" ⟨"Pause", [⟨"time", [.int], false, []⟩]⟩

/-- A block with everything wrong, behind two definitions and a section of another use, is judged by
the second definition, which has no number; a stray with the same entries is only called one. -/
theorem state_block_judged_past_other_sections :
    (∃ ds later,
      (Ledger.empty.check narrowRules (⟨"st", false⟩, ⟨[⟨"statedef 1", 0, []⟩,
        ⟨"statedef x", 1, []⟩, ⟨"data", 2, []⟩, ⟨"state3", 3, [⟨"type", "pause"⟩,
          ⟨"time", "1"⟩, ⟨"foo", "1"⟩, ⟨"foo", "2"⟩, ⟨"trigger1", "1"⟩]⟩]⟩)).report.diagnostics =
        [] ++ (validate narrowRules ⟨"st", false⟩ .empty ⟨[⟨"statedef 1", 0, []⟩,
          ⟨"statedef x", 1, []⟩, ⟨"data", 2, []⟩]⟩).findings ++ ds ++ later ∧
      ds.map Diagnostic.text =
        ["[DEBUG] State `state3` has number omitted for statedef group x!",
          "[ERROR] State `state3` in statedef group x has no trailing space!",
          "[ERROR] State `state3` in statedef group x has invalid type pause!",
          "[INFO] State `state3` with type pause in statedef group x has invalid parameter foo!",
          "[INFO] State `state3` with type pause in statedef group x has invalid parameter foo!"]) ∧
    ∃ ds later,
      (Ledger.empty.check narrowRules
        (⟨"st", false⟩, ⟨[⟨"state3", 0, [⟨"foo", "1"⟩]⟩]⟩)).report.diagnostics =
          [] ++ [] ++ ds ++ later ∧
      ds.map Diagnostic.text = ["[INFO] State `state3` found outside of statedef group!"] := by
  obtain ⟨ds, later, hreport, _, _, hds⟩ := state_block_judged_by_nearest_definition narrowRules
    ⟨"st", false⟩ .empty [⟨"statedef 1", 0, []⟩, ⟨"statedef x", 1, []⟩, ⟨"data", 2, []⟩]
    ⟨"state3", 3, [⟨"type", "pause"⟩, ⟨"time", "1"⟩, ⟨"foo", "1"⟩, ⟨"foo", "2"⟩,
      ⟨"trigger1", "1"⟩]⟩ [] (h := ⟨.omitted, false⟩) (by decide)
  obtain ⟨es, further, hstray, _, hes, _⟩ := state_block_judged_by_nearest_definition narrowRules
    ⟨"st", false⟩ .empty [] ⟨"state3", 0, [⟨"foo", "1"⟩]⟩ [] (h := ⟨.omitted, false⟩) (by decide)
  refine ⟨⟨ds, later, hreport, ?_⟩, es, further, hstray, ?_⟩
  · rw [hds [⟨"statedef 1", 0, []⟩] ⟨"statedef x", 1, []⟩ [⟨"data", 2, []⟩] ⟨none, "x"⟩ rfl
      (by decide) (by decide)]
    decide
  · rw [hes (by decide)]
    decide

end FighterCheck.State
