import FighterCheck.Proofs.Schema.Declared
import FighterCheck.Proofs.State.Flaws
import FighterCheck.Proofs.Text.Cutting

/-!
# Types that cover the controllers

The type of a state block is looked up twice: among the controllers, which are kept by their folded names,
and among the options of the parameter `type`, which are compared one by one. A block has a wrong type if
the first search finds it and the second does not. Both ask for the same of the value, namely for what it
comes to without the blanks around it and without regard to ASCII case, so if the options permit the name of
every controller (`TypesCover`) they permit every way to spell one. Then no block has a wrong type, and
every error is that a separator is missing.

That the words of one finding are not those of another is a matter of blanks: where the separator is
missing, neither the header nor the number of the definition holds a blank, so the words of the message are
where they were put.
-/

namespace FighterCheck

namespace Schema

open Text (asciiFold sameAscii_iff trimmed)

/-- **What is permitted depends on the value without blanks around it and without case.** -/
theorem Property.permits_congr (p : Property) {v w : String}
    (h : asciiFold (trimmed v) = asciiFold (trimmed w)) : p.permits v = p.permits w := by
  unfold permits
  refine congrArg p.options.any (funext fun o => ?_)
  rw [Bool.eq_iff_iff, sameAscii_iff, sameAscii_iff, h]

end Schema

namespace State

open Ini (Document Section)
open Schema (Catalog Sources)
open Text (asciiFold sameAscii sameAscii_iff trimmed)

variable {c : Catalog} {file : FileContext} {s : Section} {x : Diagnostic}

/-! ## Types -/

/-- **A block has a wrong type** if some controller has that name, and the name of this very controller is
not permitted as a type. -/
theorem isWrongType_iff (hc : Schema.Recorded c.controllerMap) :
    IsWrongType c s ↔ ∃ type ∈ s.value? "type", ∃ d ∈ c.controllers,
      sameAscii d.name (trimmed type) = true ∧
        ∃ p ∈ c.state.property? "type", p.permits d.name = false := by
  have hspelling : ∀ (p : Schema.Property) {name type : String},
      sameAscii name (trimmed type) = true → p.permits type = p.permits name := by
    intro p name type hsame
    refine p.permits_congr ?_
    rw [← Text.trimmed_asciiFold name, sameAscii_iff.mp hsame, Text.trimmed_asciiFold,
      Text.trimmed_trimmed]
  constructor
  · rintro ⟨type, htype, hcontroller, p, hp, hpermits⟩
    obtain ⟨d, hd, hsame⟩ := (Schema.Catalog.isController_iff hc).mp hcontroller
    exact ⟨type, htype, d, hd, hsame, p, hp, hspelling p hsame ▸ hpermits⟩
  · rintro ⟨type, htype, d, hd, hsame, p, hp, hpermits⟩
    exact ⟨type, htype, (Schema.Catalog.isController_iff hc).mpr ⟨d, hd, hsame⟩, p, hp,
      (hspelling p hsame).trans hpermits⟩

/-- The first parameter `type` of state blocks, if there is one, permits the name of every controller. -/
def TypesCover (c : Catalog) : Prop :=
  ∀ p ∈ c.state.property? "type", ∀ d ∈ c.controllers, p.permits d.name = true

instance (c : Catalog) : Decidable (TypesCover c) :=
  inferInstanceAs (Decidable (∀ p ∈ c.state.property? "type", _))

/-- **Types that cover the controllers leave no block with a wrong one**, however it is spelled. -/
theorem TypesCover.not_isWrongType (h : TypesCover c) (hc : Schema.Recorded c.controllerMap)
    (s : Section) : ¬ IsWrongType c s := by
  rw [isWrongType_iff hc]
  rintro ⟨_, _, d, hd, _, p, hp, hpermits⟩
  rw [h p hp d hd] at hpermits
  exact Bool.noConfusion hpermits

/-! ## Words -/

/-- The words by which a finding says that a type is wrong. -/
def wrongTypeWords : List Char := " has invalid type ".toList

/-- The number of a definition, as it is written, holds no blank. -/
theorem blank_notMem_label {ss : List Section} {g : Definition} (h : lastDefinition? ss = some g) :
    ' ' ∉ g.label.toList := by
  obtain ⟨q, _, hq⟩ := List.exists_of_findSome?_eq_some h
  have hraw : ∀ rest, ' ' ∉ (rawStatedefId rest) := by
    intro rest hmem
    have hwhile := List.all_eq_true.mp List.all_takeWhile ' ' (Text.mem_of_mem_trim hmem)
    exact absurd hwhile (by decide)
  unfold definition? at hq
  split at hq
  · next hd hname =>
    obtain ⟨rest, _, rfl⟩ := ofName_eq_statedef_iff.mp hname
    rw [← Option.some.inj hq, statedefHeader, String.toList_ofList]
    exact hraw rest
  · exact nomatch hq

/-- The words by which a finding says that a separator is missing. -/
theorem words_separatorFinding {d : Definition} (hname : ' ' ∉ s.name.toList)
    (hlabel : ' ' ∉ d.label.toList) :
    Text.split ' ' (separatorFinding file s d).message.toList =
      ["State".toList, '`' :: (s.name.toList ++ ['`']), "in".toList, "statedef".toList, "group".toList,
        d.label.toList, "has".toList, "no".toList, "trailing".toList, "space!".toList] := by
  have hmessage : (separatorFinding file s d).message.toList =
      "State".toList ++ ' ' :: (('`' :: (s.name.toList ++ ['`'])) ++ ' ' :: ("in".toList ++ ' ' ::
        ("statedef".toList ++ ' ' :: ("group".toList ++ ' ' :: (d.label.toList ++ ' ' ::
          ("has".toList ++ ' ' :: ("no".toList ++ ' ' :: ("trailing".toList ++ ' ' ::
            "space!".toList)))))))) := by
    simp [separatorFinding, FileContext.finding, statePlace, String.toList_append]
  have hquoted : ' ' ∉ '`' :: (s.name.toList ++ ['`']) := by simp [hname]
  simp only [hmessage, Text.split_append]
  rw [Text.split_eq_singleton hquoted, Text.split_eq_singleton hlabel]
  simp [Text.split_eq_singleton]

/-- **That a separator is missing is never said in the words for a wrong type.** -/
theorem wrongTypeWords_not_isInfix {d : Definition} (hname : ' ' ∉ s.name.toList)
    (hlabel : ' ' ∉ d.label.toList) :
    ¬ wrongTypeWords <:+: (separatorFinding file s d).message.toList := by
  rintro ⟨before, after, h⟩
  have hwords : ["has".toList, "invalid".toList, "type".toList] <:+:
      Text.split ' ' (separatorFinding file s d).message.toList := by
    have hparts : wrongTypeWords = ' ' :: ("has".toList ++ ' ' :: ("invalid".toList ++ ' ' ::
        ("type".toList ++ [' ']))) := by
      decide +kernel
    refine ⟨Text.split ' ' before, Text.split ' ' after, ?_⟩
    simp only [← h, hparts, List.append_assoc, List.cons_append, Text.split_append, List.nil_append]
    simp [Text.split_eq_singleton]
  rw [words_separatorFinding hname hlabel] at hwords
  simp [List.infix_cons_iff] at hwords

/-- The header of a state block without a separator holds no blank. -/
theorem blank_notMem_name {h : StateHeader} (hs : SectionKind.ofName s.name = .state h)
    (hseparator : h.hasSeparator = false) : ' ' ∉ s.name.toList := by
  rw [eq_stateHeader_of_ofName hs] at hseparator
  rw [← hasSeparator_stateHeader, hseparator]
  exact Bool.noConfusion

/-! ## Files -/

/-- **Where the types of state blocks cover the controllers, missing separators are the only errors.** Let
a catalog be loaded from any documents such that the first parameter `type` of state blocks, if there is
one, permits the name of every controller. Then checking any document, as any file, with any owners and any
report to begin with, adds findings of which no error says that a type is invalid; and the errors among
them are exactly those that a state block, inside the definition nearest before it, has no separator. -/
theorem covering_types_leave_only_missing_separators {s : Sources} {c : Catalog}
    (hload : s.load = .ok c) (hcover : TypesCover c) (file : FileContext) (l : Ledger) (d : Document) :
    ∃ ds, (l.check c (file, d)).report.diagnostics = l.report.diagnostics ++ ds ∧
      (validate c file l.owners d).findings = ds ∧
      (∀ x ∈ ds, x.severity = .error → ¬ " has invalid type ".toList <:+: x.message.toList) ∧
      ∀ x, x ∈ ds ∧ x.severity = .error ↔ ∃ pre b post h g, d.sections = pre ++ b :: post ∧
        SectionKind.ofName b.name = .state h ∧ lastDefinition? pre = some g ∧
        h.hasSeparator = false ∧ x = separatorFinding file b g := by
  have hrecorded := Schema.Sources.recorded_of_load hload
  have herrors : ∀ x, x ∈ (validate c file l.owners d).findings ∧ x.severity = .error ↔
      ∃ pre b post h g, d.sections = pre ++ b :: post ∧ SectionKind.ofName b.name = .state h ∧
        lastDefinition? pre = some g ∧ h.hasSeparator = false ∧ x = separatorFinding file b g := by
    intro x
    rw [error_mem_findings_validate_iff]
    constructor
    · rintro ⟨pre, b, post, h, g, hsplit, hs, hg, hseparator | htype⟩
      · exact ⟨pre, b, post, h, g, hsplit, hs, hg, hseparator, rfl⟩
      · exact absurd htype (hcover.not_isWrongType hrecorded b)
    · rintro ⟨pre, b, post, h, g, hsplit, hs, hg, hseparator, rfl⟩
      exact ⟨pre, b, post, h, g, hsplit, hs, hg, .separator hseparator⟩
  refine ⟨_, rfl, rfl, fun x hx herror => ?_, herrors⟩
  obtain ⟨pre, b, post, h, g, _, hs, hg, hseparator, rfl⟩ := (herrors x).mp ⟨hx, herror⟩
  exact wrongTypeWords_not_isInfix (blank_notMem_name hs hseparator) (blank_notMem_label hg)

/-- Rules with two controllers, both of which are types of state blocks, one of them in other letters. -/
def coveringSources : Sources := Sources.ofTexts
  "<section name='statedef' type='int' comment='true'/>"
  "<section name='state' type='int' comment='true'><property name='Type' type='enum' optional='false'>
  <value val='nULL'/><value val='Pause'/></property></section>"
  "<controllers><controller name='Null'/><controller name='Pause'/></controllers>"

/-- The catalog of these rules. -/
def coveringCatalog : Catalog :=
  ⟨⟨"statedef", .int, true, []⟩,
    ⟨"state", .int, true, [⟨"Type", [.choice], false, ["nULL", "Pause"]⟩]⟩,
    Schema.controllerMapOf [⟨"Null", []⟩, ⟨"Pause", []⟩]⟩

theorem load_coveringSources : coveringSources.load = .ok coveringCatalog := by
  have hstatedef : Schema.nodesOf Schema.statedefFile coveringSources.statedef.text = .ok
      [.opens "section" [("name", "statedef"), ("type", "int"), ("comment", "true")],
        .closes "section"] := by
    refine Schema.nodesOf_of_tags ?_
    rw [coveringSources, Sources.ofTexts, String.toList_ofList]
    decide +kernel
  have hstate : Schema.nodesOf Schema.stateFile coveringSources.state.text = .ok
      [.opens "section" [("name", "state"), ("type", "int"), ("comment", "true")],
        .opens "property" [("name", "Type"), ("type", "enum"), ("optional", "false")],
        .opens "value" [("val", "nULL")], .closes "value", .opens "value" [("val", "Pause")],
        .closes "value", .closes "property", .closes "section"] := by
    refine Schema.nodesOf_of_tags ?_
    rw [coveringSources, Sources.ofTexts, String.toList_ofList]
    decide +kernel
  have hcontrollers : Schema.nodesOf Schema.controllerFile coveringSources.controllers.text = .ok
      [.opens "controllers" [], .opens "controller" [("name", "Null")], .closes "controller",
        .opens "controller" [("name", "Pause")], .closes "controller", .closes "controllers"] := by
    refine Schema.nodesOf_of_tags ?_
    rw [coveringSources, Sources.ofTexts, String.toList_ofList]
    decide +kernel
  exact Schema.load_of_nodes hstatedef hstate hcontrollers (by decide +kernel) (by decide +kernel)
    (show _ = Schema.Reading.mk [⟨"Null", []⟩, ⟨"Pause", []⟩] none by decide +kernel)

/-- Of a block whose first type is a controller in other letters and with blanks around it and whose second
is none, and one without a separator, only the latter has an error. -/
theorem odd_types_have_no_error :
    ∃ ds, (Ledger.empty.check coveringCatalog (⟨"st", false⟩, ⟨[⟨"statedef 1", 0, []⟩,
        ⟨"state 1, a", 1, [⟨"type", " PaUSE\t"⟩, ⟨"type", "x"⟩]⟩,
        ⟨"state2", 2, [⟨"type", "NULL"⟩]⟩]⟩)).report.diagnostics = [] ++ ds ∧
      (∀ x ∈ ds, x.severity = .error → ¬ " has invalid type ".toList <:+: x.message.toList) ∧
      separatorFinding ⟨"st", false⟩ ⟨"state2", 2, [⟨"type", "NULL"⟩]⟩ ⟨some 1, "1"⟩ ∈ ds := by
  obtain ⟨ds, hreport, _, hwords, herrors⟩ := covering_types_leave_only_missing_separators
    load_coveringSources (by decide) ⟨"st", false⟩ .empty ⟨[⟨"statedef 1", 0, []⟩,
      ⟨"state 1, a", 1, [⟨"type", " PaUSE\t"⟩, ⟨"type", "x"⟩]⟩, ⟨"state2", 2, [⟨"type", "NULL"⟩]⟩]⟩
  refine ⟨ds, hreport, hwords, ((herrors _).mpr ⟨[⟨"statedef 1", 0, []⟩,
    ⟨"state 1, a", 1, [⟨"type", " PaUSE\t"⟩, ⟨"type", "x"⟩]⟩], ⟨"state2", 2, [⟨"type", "NULL"⟩]⟩, [],
    ⟨.omitted, false⟩, ⟨some 1, "1"⟩, rfl, by decide, by decide, rfl, rfl⟩).1⟩

end State

end FighterCheck
