import FighterCheck.Proofs.Failure
import FighterCheck.Proofs.Schema.NameMap
import FighterCheck.Schema.Load

/-!
# Which controllers are found

The controllers of a catalog are kept by their folded names, and each is recorded under its own
(`Recorded`): every entry is that of a controller that was recorded, so it holds of every catalog that
loads. What is found under a name is then exactly the controller whose name equals it in all but ASCII
case (`Recorded.value?_eq_some_iff`).

A name that is looked up is trimmed first, but one that is recorded is not. So a controller whose name has
a blank at an end is among the controllers and is found under no name (`controller?_ne_of_blank`), and
every other is found under its own (`controller?_self_iff`).
-/

namespace FighterCheck

namespace Schema

open Text (asciiFold sameAscii sameAscii_iff trimmed)

/-- Every controller is recorded under its own folded name. -/
def Recorded (m : NameMap Controller) : Prop := ∀ e ∈ m.entries, e.1 = asciiFold e.2.2.name

variable {m : NameMap Controller}

theorem controllerMapOf_eq_ofList (ds : List Controller) :
    controllerMapOf ds = NameMap.ofList (ds.map fun d => (d.name, d)) := by
  rw [controllerMapOf, NameMap.ofList, List.foldl_map]

/-- **Of controllers with equal names the first is kept.** -/
theorem value?_controllerMapOf (ds : List Controller) (name : String) :
    (controllerMapOf ds).value? name = ds.find? (sameAscii ·.name name) := by
  rw [controllerMapOf_eq_ofList, NameMap.value?_ofList, List.find?_map, Option.map_map]
  exact congrFun Option.map_id _

/-- **Every entry is that of a controller**, recorded under its folded name with its own spelling. -/
theorem exists_of_mem_controllerMapOf {ds : List Controller} {e : String × String × Controller}
    (he : e ∈ (controllerMapOf ds).entries) : ∃ d ∈ ds, e = (asciiFold d.name, d.name, d) := by
  rw [controllerMapOf_eq_ofList] at he
  have hkey : e.1 = asciiFold e.2.1 := NameMap.key_of_mem_entries_ofList he
  obtain ⟨d, hd, hentry⟩ :=
    List.mem_map.mp (List.mem_of_find?_eq_some (NameMap.mem_entries_ofList.mp he))
  exact ⟨d, hd, Prod.ext (hkey.trans (hentry ▸ rfl)) hentry.symm⟩

theorem recorded_controllerMapOf (ds : List Controller) : Recorded (controllerMapOf ds) := by
  intro e he
  obtain ⟨d, _, rfl⟩ := exists_of_mem_controllerMapOf he
  rfl

/-- **What is found under a name is the controller whose name it is**, in all but ASCII case. -/
theorem Recorded.value?_eq_some_iff (h : Recorded m) {name : String} {d : Controller} :
    m.value? name = some d ↔ d ∈ m.toList.map (·.2) ∧ sameAscii d.name name = true := by
  rw [sameAscii_iff, NameMap.value?, Option.map_eq_some_iff, NameMap.toList, List.map_map,
    List.mem_map]
  constructor
  · rintro ⟨e, he, rfl⟩
    have hmem := (Registry.mem_entries_iff m).mpr he
    exact ⟨⟨_, hmem, rfl⟩, (h _ hmem).symm⟩
  · rintro ⟨⟨⟨key, entry⟩, he, rfl⟩, hname⟩
    have hkey : key = asciiFold name := (h _ he).trans hname
    exact ⟨entry, (Registry.mem_entries_iff m).mp (hkey ▸ he), rfl⟩

variable {c : Catalog}

/-- **What a catalog that loads is made of**: two streams with rules, and one with controllers. -/
theorem Sources.exists_of_load {s : Sources} (h : s.load = .ok c) :
    ∃ ns₁ ns₂ ns₃ ds, sectionRules s.statedef.path "statedef" ns₁ = .ok c.statedef ∧
      sectionRules s.state.path "state" ns₂ = .ok c.state ∧
      (controllersOf s.controllers.path ns₃).result = .ok ds ∧
      c.controllerMap = controllerMapOf ds := by
  obtain ⟨⟨statedef, state⟩, hrules, hafter⟩ := eq_ok_of_bind h
  obtain ⟨reading, hreading, hafter⟩ := eq_ok_of_bind hafter
  obtain ⟨ds, hds, hc⟩ := eq_ok_of_bind hafter
  obtain ⟨ns₁, _, hrules⟩ := eq_ok_of_bind hrules
  obtain ⟨_, hstatedef, hrules⟩ := eq_ok_of_bind hrules
  obtain ⟨ns₂, _, hrules⟩ := eq_ok_of_bind hrules
  obtain ⟨_, hstate, hpair⟩ := eq_ok_of_bind hrules
  obtain ⟨rfl, rfl⟩ := Prod.mk.inj (Except.ok.inj hpair)
  obtain ⟨ns₃, _, rfl⟩ := map_eq_ok_iff.mp hreading
  obtain rfl := Except.ok.inj hc
  exact ⟨ns₁, ns₂, ns₃, ds, hstatedef, hstate, hds, rfl⟩

/-- **Every catalog that loads has each controller under its own name.** -/
theorem Sources.recorded_of_load {s : Sources} (h : s.load = .ok c) : Recorded c.controllerMap := by
  obtain ⟨_, _, _, ds, _, _, _, hmap⟩ := Sources.exists_of_load h
  rw [hmap]
  exact recorded_controllerMapOf ds

namespace Catalog

variable (hc : Recorded c.controllerMap)
include hc

/-- **A name finds the controller that it equals once trimmed**, in all but ASCII case. -/
theorem controller?_eq_some_iff {name : String} {d : Controller} :
    c.controller? name = some d ↔
      d ∈ c.controllers ∧ sameAscii d.name (trimmed name) = true :=
  hc.value?_eq_some_iff

theorem isController_iff {name : String} :
    c.isController name = true ↔ ∃ d ∈ c.controllers, sameAscii d.name (trimmed name) = true := by
  have hsome : c.isController name = (c.controller? name).isSome := by
    rw [controller?, NameMap.value?, Option.isSome_map]
    rfl
  rw [hsome, Option.isSome_iff_exists]
  exact exists_congr fun d => controller?_eq_some_iff hc

/-- **A controller is found under its own name if and only if that has no blank at an end.** -/
theorem controller?_self_iff {d : Controller} (hd : d ∈ c.controllers) :
    c.controller? d.name = some d ↔ trimmed d.name = d.name := by
  rw [controller?_eq_some_iff hc, and_iff_right hd, sameAscii_iff]
  exact ⟨fun h => Text.trimmed_eq_self_of_asciiFold_eq h.symm, fun h => by rw [h]⟩

/-- **A controller whose name has a blank at an end is found under no name at all.** -/
theorem controller?_ne_of_blank {d : Controller} (hd : trimmed d.name ≠ d.name) (name : String) :
    c.controller? name ≠ some d := by
  intro h
  obtain ⟨_, hsame⟩ := (controller?_eq_some_iff hc).mp h
  rw [Text.sameAscii_comm] at hsame
  exact hd (Text.trimmed_eq_self_of_sameAscii hsame (Text.trimmed_trimmed name))

end Catalog

end Schema

end FighterCheck
