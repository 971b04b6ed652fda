import FighterCheck.Proofs.Schema.Declared

/-!
# What every catalog keeps to

Reading schema documents goes from element to element, and any stream is read to its end or to the first
thing that is wrong: parameters may be opened inside others, left open, or stand where nothing takes them.
What a catalog can be relied on for does not come from the shape of its documents, then, but from the
draft that is carried along (`Draft.Sound`). A parameter has a slot from the start, and takes options while
nobody knows whether it will keep them; it joins those that are complete only through being settled, which
is when the options go unless a slot wants them. Each step keeps this, wherever the stream leads.

The order of controllers and their spelling are matters of the map instead, in which each is recorded
under its own folded name.
-/

namespace FighterCheck.Schema

open Markup (Attributes Node)
open Text (asciiFold sameAscii)

/-- A parameter as a catalog has it. -/
structure Property.Sound (p : Property) : Prop where
  /-- it has a slot -/
  types_ne : p.types ≠ []
  /-- it has options only if some slot takes one or several -/
  options : p.options ≠ [] → .choice ∈ p.types ∨ .choices ∈ p.types

/-- Every parameter is as a catalog has it. -/
def AllSound (ps : List Property) : Prop := ∀ p ∈ ps, p.Sound

/-- Of the parameters read so far, those that are complete are as a catalog has them, and the one that is
open has a slot. -/
structure Draft.Sound (d : Draft) : Prop where
  /-- those that are complete -/
  settled : AllSound d.settled
  /-- the one that is open -/
  current : ∀ p ∈ d.current, p.types ≠ []

variable {path parent kind name : String} {as : Attributes} {n : Node} {ns : List Node} {d d' : Draft}
  {p : Property} {ps : List Property}

/-! ## Parameters -/

/-- **Settling a parameter** leaves options only where a slot wants them. -/
theorem Property.sound_settle (h : p.types ≠ []) : p.settle.Sound := by
  unfold settle
  split
  · next hchoice => exact ⟨h, fun _ => hasChoiceSlot_iff.mp hchoice⟩
  · exact ⟨h, fun hne => absurd rfl hne⟩

theorem types_ne_nil_of_propertyOf (h : propertyOf path as = .ok p) : p.types ≠ [] := by
  obtain ⟨_, _, h⟩ := eq_ok_of_bind h
  obtain ⟨signature, _, h⟩ := eq_ok_of_bind h
  obtain ⟨_, _, h⟩ := eq_ok_of_bind h
  rw [← Except.ok.inj h]
  exact slots_ne_nil signature

namespace Draft

theorem sound_empty : empty.Sound := ⟨fun _ hp => absurd hp List.not_mem_nil, nofun⟩

/-- **A step keeps a draft sound**, whatever element it is. -/
theorem Sound.step (h : d.Sound) (hstep : d.step path n = .ok d') : d'.Sound := by
  cases n with
  | opens tag as =>
    rw [Draft.step] at hstep
    split at hstep
    · -- a parameter that was open already is given up
      obtain ⟨p, hp, rfl⟩ := map_eq_ok_iff.mp hstep
      refine ⟨h.settled, fun q hq => ?_⟩
      rw [← Option.some.inj hq]
      exact types_ne_nil_of_propertyOf hp
    · split at hstep
      · cases hcurrent : d.current with
        | none =>
          rw [hcurrent] at hstep
          rwa [← Except.ok.inj hstep]
        | some p =>
          rw [hcurrent] at hstep
          obtain ⟨v, _, rfl⟩ := map_eq_ok_iff.mp hstep
          refine ⟨h.settled, fun q hq => ?_⟩
          rw [← Option.some.inj hq]
          exact h.current p hcurrent
      · rwa [← Except.ok.inj hstep]
  | closes tag =>
    rw [Draft.step] at hstep
    split at hstep
    · cases hcurrent : d.current with
      | none =>
        rw [hcurrent] at hstep
        rwa [← Except.ok.inj hstep]
      | some p =>
        rw [hcurrent] at hstep
        rw [← Except.ok.inj hstep]
        refine ⟨fun q hq => ?_, fun q hq => absurd hq (Option.not_mem_none q)⟩
        rcases List.mem_append.mp hq with hq | hq
        · exact h.settled q hq
        · rw [List.mem_singleton.mp hq]
          exact Property.sound_settle (h.current p hcurrent)
    · rwa [← Except.ok.inj hstep]

end Draft

/-- Parameters read up to the end of an element, or of the stream, are sound. -/
theorem allSound_of_propertiesUntil (h : d.Sound) (hread : propertiesUntil path parent d ns = .ok ps) :
    AllSound ps := by
  induction ns generalizing d with
  | nil =>
    rw [← Except.ok.inj hread]
    exact h.settled
  | cons n ns ih =>
    rw [propertiesUntil] at hread
    split at hread
    · rw [← Except.ok.inj hread]
      exact h.settled
    · split at hread
      · cases hread
      · next d' hstep => exact ih (h.step hstep) hread

/-! ## Rules for sections -/

theorem allSound_of_rulesOf {rules : SectionRules} (h : rulesOf path kind as ns = .ok rules) :
    AllSound rules.properties := by
  unfold rulesOf at h
  obtain ⟨name, _, h⟩ := eq_ok_of_bind h
  split at h
  · exact nomatch h
  · obtain ⟨_, _, h⟩ := eq_ok_of_bind h
    obtain ⟨_, _, h⟩ := eq_ok_of_bind h
    obtain ⟨ps, hread, h⟩ := eq_ok_of_bind h
    rw [← Except.ok.inj h]
    exact allSound_of_propertiesUntil Draft.sound_empty hread

/-- **The rules read from any stream are sound.** -/
theorem allSound_of_sectionRules {rules : SectionRules} (h : sectionRules path kind ns = .ok rules) :
    AllSound rules.properties := by
  induction ns with
  | nil => exact nomatch h
  | cons n ns ih =>
    cases n with
    | opens tag as =>
      rw [sectionRules] at h
      split at h
      · exact allSound_of_rulesOf h
      · exact ih h
    | closes tag => exact ih h

/-! ## Controllers -/

/-- The parameters of every controller that was read are sound. -/
def Reading.Sound (r : Reading) : Prop := ∀ c ∈ r.controllers, AllSound c.properties

theorem Reading.sound_of_fault (e : Error) : Reading.Sound ⟨[], some e⟩ :=
  fun _ hc => absurd hc List.not_mem_nil

theorem Reading.Sound.cons {r : Reading} (h : r.Sound) (hps : AllSound ps) :
    (r.cons ⟨name, ps⟩).Sound := List.forall_mem_cons.mpr ⟨hps, h⟩

/-- **The controllers read inside any stream are sound**, between two of them or within one. -/
theorem sound_controllersInside (path : String) (ns : List Node) :
    (controllersInside path ns).Sound ∧
      ∀ name (d : Draft), d.Sound → (controllersAfter path name d ns).Sound := by
  -- the two readers hand the rest of the stream to each other, so both are followed at once
  induction ns with
  | nil =>
    refine ⟨fun _ hc => absurd hc List.not_mem_nil, fun name d h c hc => ?_⟩
    rw [List.mem_singleton.mp hc]
    exact h.settled
  | cons n ns ih =>
    obtain ⟨hinside, hafter⟩ := ih
    constructor
    · cases n with
      | opens tag as =>
        rw [controllersInside]
        split
        · split
          · exact Reading.sound_of_fault _
          · exact hafter _ _ Draft.sound_empty
        · exact hinside
      | closes tag =>
        rw [controllersInside]
        split
        · exact fun _ hc => absurd hc List.not_mem_nil
        · exact hinside
    · intro name d h
      rw [controllersAfter]
      split
      · exact hinside.cons h.settled
      · split
        · exact Reading.sound_of_fault _
        · next d' hstep => exact hafter name d' (h.step hstep)

theorem sound_controllersOf (path : String) (ns : List Node) : (controllersOf path ns).Sound := by
  induction ns with
  | nil => exact Reading.sound_of_fault _
  | cons n ns ih =>
    cases n with
    | opens tag as =>
      rw [controllersOf]
      split
      · exact (sound_controllersInside path ns).1
      · exact ih
    | closes tag =>
      rw [controllersOf]
      split
      · exact Reading.sound_of_fault _
      · exact ih

/-- A reading that succeeds has yielded its controllers. -/
theorem Reading.controllers_of_result {r : Reading} {cs : List Controller} (h : r.result = .ok cs) :
    r.controllers = cs := by
  unfold result at h
  split at h
  · exact Except.ok.inj h
  · exact nomatch h

/-! ## The map of controllers -/

variable {m : NameMap Controller}

/-- **Controllers come in ascending order of their folded names**, if each is recorded under its own. -/
theorem Recorded.pairwise_lt (h : Recorded m) :
    (m.toList.map (·.2)).Pairwise fun a b => asciiFold a.name < asciiFold b.name := by
  rw [NameMap.toList, List.map_map, List.pairwise_map]
  refine m.ascending.imp_of_mem fun {a b} ha hb hlt => ?_
  rw [h a ha, h b hb] at hlt
  exact hlt

/-- Names in ascending order are no two the same but for ASCII case. -/
theorem sameAscii_eq_false_of_lt {a b : String} (h : asciiFold a < asciiFold b) :
    sameAscii a b = false := by
  refine Bool.eq_false_iff.mpr fun hsame => ?_
  rw [Text.sameAscii_iff.mp hsame] at h
  exact String.lt_irrefl _ h

/-- **Whatever documents a catalog is loaded from, it keeps to this**: each parameter, be it of
definitions, of state blocks or of a controller, has at least one slot, and has options only if some slot
takes one or several of them; the controllers come in strictly ascending order of their folded names, so
that no two have names that differ only in ASCII case; and each is recorded with the spelling of its own
name, which is also the one told for every name that finds it. -/
theorem loaded_catalog_is_sound_and_ordered {s : Sources} {c : Catalog} (hload : s.load = .ok c) :
    AllSound c.statedef.properties ∧ AllSound c.state.properties ∧
    (∀ d ∈ c.controllers, AllSound d.properties) ∧
    (c.controllers.Pairwise fun a b => asciiFold a.name < asciiFold b.name) ∧
    (c.controllers.Pairwise fun a b => sameAscii a.name b.name = false) ∧
    (∀ e ∈ c.controllerMap.toList, e.1 = e.2.name) ∧
    ∀ name, c.controllerMap.spelling? name = (c.controllerMap.value? name).map Controller.name := by
  obtain ⟨ns₁, ns₂, ns₃, cs, hstatedef, hstate, hcs, hmap⟩ := Sources.exists_of_load hload
  have hentry : ∀ e ∈ c.controllerMap.entries, ∃ d ∈ cs, e = (asciiFold d.name, d.name, d) := by
    rw [hmap]
    exact fun e => exists_of_mem_controllerMapOf
  have horder := (Sources.recorded_of_load hload).pairwise_lt
  refine ⟨allSound_of_sectionRules hstatedef, allSound_of_sectionRules hstate, fun d hd => ?_, horder,
    horder.imp sameAscii_eq_false_of_lt, fun e he => ?_, fun name => ?_⟩
  · obtain ⟨_, hvalue, rfl⟩ := List.mem_map.mp hd
    obtain ⟨e, he, rfl⟩ := List.mem_map.mp hvalue
    obtain ⟨d, hmem, rfl⟩ := hentry e he
    have hread := sound_controllersOf s.controllers.path ns₃
    rw [Reading.Sound, Reading.controllers_of_result hcs] at hread
    exact hread d hmem
  · obtain ⟨entry, hentries, rfl⟩ := List.mem_map.mp he
    obtain ⟨d, _, rfl⟩ := hentry entry hentries
    rfl
  · rw [NameMap.spelling?, NameMap.value?, Option.map_map]
    cases hfind : c.controllerMap.find? (asciiFold name) with
    | none => rfl
    | some v =>
      obtain ⟨d, _, heq⟩ := hentry _ ((Registry.mem_entries_iff _).mpr hfind)
      obtain rfl : v = (d.name, d) := (Prod.mk.inj heq).2
      rfl

/-- Documents that keep to no shape: a parameter opened in another, which is given up, and two options that
no slot takes; a parameter that is left open; a controller in another, and two of equal names, in an element
that is left open too. -/
def oddSources : Sources := Sources.ofTexts
  "<section name='StateDef' type='' comment='true'><property name='a' type='int' optional='true'>
  <value val='x'/><property name='b' type='enum' optional='true'><value val='y'/></property></property>
  <value val='z'/><property name='c' type='int' optional='true'><value val='v'/></property></section>"
  "<section name='state' type='int' comment='true'><property name='p' type='int' optional='true'>"
  "<controllers><controller name='Turn'><controller name='Pause'/></controller>
  <controller name='null'/><controller name='NULL'/>"

/-- The catalog of these documents. -/
def oddCatalog : Catalog :=
  ⟨⟨"statedef", .none, true, [⟨"b", [.choice], true, ["y"]⟩, ⟨"c", [.int], true, []⟩]⟩,
    ⟨"state", .int, true, []⟩, controllerMapOf [⟨"Turn", []⟩, ⟨"null", []⟩, ⟨"NULL", []⟩]⟩

theorem load_oddSources : oddSources.load = .ok oddCatalog := by
  have hstatedef : nodesOf statedefFile oddSources.statedef.text = .ok
      [.opens "section" [("name", "StateDef"), ("type", ""), ("comment", "true")],
        .opens "property" [("name", "a"), ("type", "int"), ("optional", "true")],
        .opens "value" [("val", "x")], .closes "value",
        .opens "property" [("name", "b"), ("type", "enum"), ("optional", "true")],
        .opens "value" [("val", "y")], .closes "value", .closes "property", .closes "property",
        .opens "value" [("val", "z")], .closes "value",
        .opens "property" [("name", "c"), ("type", "int"), ("optional", "true")],
        .opens "value" [("val", "v")], .closes "value", .closes "property", .closes "section"] := by
    refine nodesOf_of_tags ?_
    rw [oddSources, Sources.ofTexts, String.toList_ofList]
    decide +kernel
  have hstate : nodesOf stateFile oddSources.state.text = .ok
      [.opens "section" [("name", "state"), ("type", "int"), ("comment", "true")],
        .opens "property" [("name", "p"), ("type", "int"), ("optional", "true")]] := by
    refine nodesOf_of_tags ?_
    rw [oddSources, Sources.ofTexts, String.toList_ofList]
    decide +kernel
  have hcontrollers : nodesOf controllerFile oddSources.controllers.text = .ok
      [.opens "controllers" [], .opens "controller" [("name", "Turn")],
        .opens "controller" [("name", "Pause")], .closes "controller", .closes "controller",
        .opens "controller" [("name", "null")], .closes "controller",
        .opens "controller" [("name", "NULL")], .closes "controller"] := by
    refine nodesOf_of_tags ?_
    rw [oddSources, Sources.ofTexts, String.toList_ofList]
    decide +kernel
  exact load_of_nodes hstatedef hstate hcontrollers (by decide +kernel) (by decide +kernel)
    (show _ = Reading.mk [⟨"Turn", []⟩, ⟨"null", []⟩, ⟨"NULL", []⟩] none by decide +kernel)

/-- The two parameters that were settled are sound, and the two controllers that are left are in order, with
the spelling of the first. -/
theorem odd_catalog_is_sound_and_ordered :
    AllSound oddCatalog.statedef.properties ∧
      oddCatalog.controllers = [⟨"null", []⟩, ⟨"Turn", []⟩] ∧
      (oddCatalog.controllers.Pairwise fun a b => asciiFold a.name < asciiFold b.name) ∧
      oddCatalog.controllerMap.spelling? "NULL" = some "null" := by
  obtain ⟨hstatedef, _, _, horder, _, _, hspelling⟩ :=
    loaded_catalog_is_sound_and_ordered load_oddSources
  exact ⟨hstatedef, by decide, horder, (hspelling "NULL").trans (by decide)⟩

end FighterCheck.Schema
