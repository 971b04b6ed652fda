import FighterCheck.Command.Basic
import FighterCheck.Proofs.Schema.Lookup
import Mathlib.Data.List.Basic

/-!
# What is listed and what is found

The schema command lists the controllers of a catalog, each with how many parameters it takes, and shows
the one whose name it is given. What it lists under a name it shows under that name exactly if the name
has no blank at an end: a name that is given is trimmed, and one that a document declares is not.
-/

namespace FighterCheck.Command

open Files (Tree)
open Resources (Location)
open Schema (Catalog Controller Sources)
open Text (sameAscii trimmed)

variable {t : Tree} {resources : Location} {c : Catalog}

/-- The catalog that a command works with is that of the three documents in its directory. -/
theorem loadCatalog_of_read {s : Sources} (hread : Sources.read t resources.schemaDir = .ok s)
    (hload : s.load = .ok c) : loadCatalog t resources = .ok c := by
  rw [loadCatalog, mapError_eq_ok_iff, Catalog.load, hread]
  exact hload

theorem listSchema_none (h : loadCatalog t resources = .ok c) :
    listSchema t resources none = .ok (.controllers (listControllers c)) := by
  rw [listSchema, h]
  rfl

theorem listSchema_some_eq_ok_iff (h : loadCatalog t resources = .ok c) {name : String}
    {d : Controller} :
    listSchema t resources (some name) = .ok (.controller d) ↔ c.controller? name = some d := by
  rw [listSchema, h]
  simp only [bind, Except.bind]
  cases c.controller? name with
  | none => exact iff_of_false nofun nofun
  | some d' => simp [pure, Except.pure]

/-- The rows of the listing are those of the controllers. -/
theorem perm_listControllers (c : Catalog) :
    (listControllers c).Perm (c.controllers.map fun d => (d.name, d.properties.length)) :=
  List.mergeSort_perm _ _

/-- **A controller that is listed is found under its own name if and only if that has no blank at an
end.** In a catalog that loads, a name finds the controller that it equals in all but ASCII case once it
has been trimmed, and no other. So a controller whose name has no blank at an end is found under it,
with its parameters, and one whose name has a blank there is found under no name at all. Wherever
these documents stand, the listing succeeds and has one row for each controller, and asking for the name
of a row shows the controller of exactly that name, with as many parameters as the row says, if and only
if the name has no blank at an end. -/
theorem listed_controller_found_iff_no_blank_at_an_end {s : Sources} {c : Catalog}
    (hload : s.load = .ok c) :
    (∀ name d, c.controller? name = some d ↔
      d ∈ c.controllers ∧ sameAscii d.name (trimmed name) = true) ∧
    (∀ name, c.isController name = true ↔
      ∃ d ∈ c.controllers, sameAscii d.name (trimmed name) = true) ∧
    (∀ d ∈ c.controllers,
      (trimmed d.name = d.name → c.controller? d.name = some d ∧
        c.isController d.name = true ∧ c.controllerProperties d.name = d.properties) ∧
      (trimmed d.name ≠ d.name → ∀ name, c.controller? name ≠ some d)) ∧
    ∀ (t : Tree) (resources : Location), Sources.read t resources.schemaDir = .ok s →
      ∃ rows, listSchema t resources none = .ok (.controllers rows) ∧
        rows.Perm (c.controllers.map fun d => (d.name, d.properties.length)) ∧
        ∀ row ∈ rows, trimmed row.1 = row.1 ↔
          ∃ d, listSchema t resources (some row.1) = .ok (.controller d) ∧ d.name = row.1 ∧
            d.properties.length = row.2 := by
  have hc := Sources.recorded_of_load hload
  refine ⟨fun name d => Catalog.controller?_eq_some_iff hc,
    fun name => Catalog.isController_iff hc, fun d hd => ⟨fun htrim => ?_,
    fun hblank name => Catalog.controller?_ne_of_blank hc hblank name⟩, fun t resources hread => ?_⟩
  · have hfound := (Catalog.controller?_self_iff hc hd).mpr htrim
    refine ⟨hfound, (Catalog.isController_iff hc).mpr ⟨d, hd, ?_⟩, ?_⟩
    · rw [htrim, Text.sameAscii_refl]
    · rw [Catalog.controllerProperties, hfound]
      rfl
  · have hcommand := loadCatalog_of_read hread hload
    refine ⟨_, listSchema_none hcommand, perm_listControllers c, fun row hrow => ?_⟩
    obtain ⟨d, hd, rfl⟩ := List.mem_map.mp ((perm_listControllers c).mem_iff.mp hrow)
    constructor
    · intro htrim
      have hfound := (Catalog.controller?_self_iff hc hd).mpr htrim
      exact ⟨d, (listSchema_some_eq_ok_iff hcommand).mpr hfound, rfl, rfl⟩
    · rintro ⟨d', hshown, hname, -⟩
      have hfound := (listSchema_some_eq_ok_iff hcommand).mp hshown
      have hd' := ((Catalog.controller?_eq_some_iff hc).mp hfound).1
      have hself : c.controller? d'.name = some d' := by rw [hname]; exact hfound
      have htrim := (Catalog.controller?_self_iff hc hd').mp hself
      rwa [hname] at htrim

/-- A document of rules that want nothing. -/
def plainRules (name : String) : Schema.Source :=
  ⟨"r/schema/" ++ name ++ ".xml", "<section name='" ++ name ++ "' type='int' comment='true'/>"⟩

/-- Three documents, the last with two controllers, one of them with blanks at the ends of its name. -/
def blankSources : Sources :=
  ⟨plainRules "statedef", plainRules "state", ⟨"r/schema/controller.xml",
    "<controllers><controller name=' Null '/><controller name='Turn'/></controllers>"⟩⟩

/-- A tree with these documents. -/
def blankTree : Tree :=
  [blankSources.statedef, blankSources.state, blankSources.controllers].foldl
    (fun t d => t.putFile d.path (Encoding.TextEncoding.plain.encode d.text.toList)) .empty

/-- The catalog of these documents. -/
def blankCatalog : Catalog :=
  ⟨⟨"statedef", .int, true, []⟩, ⟨"state", .int, true, []⟩,
    Schema.controllerMapOf [⟨" Null ", []⟩, ⟨"Turn", []⟩]⟩

theorem read_blankTree : Sources.read blankTree (Location.schemaDir ⟨"r"⟩) = .ok blankSources := by
  decide +kernel

theorem load_blankSources : blankSources.load = .ok blankCatalog := by decide +kernel

/-- Of the two controllers, both listed, the one is shown under its name and the other is not. -/
theorem listed_turn_is_shown_and_blank_null_is_not :
    ∃ rows, listSchema blankTree ⟨"r"⟩ none = .ok (.controllers rows) ∧
      ("Turn", 0) ∈ rows ∧ (" Null ", 0) ∈ rows ∧
      (∃ d, listSchema blankTree ⟨"r"⟩ (some "Turn") = .ok (.controller d) ∧ d.name = "Turn" ∧
        d.properties.length = 0) ∧
      ¬ ∃ d, listSchema blankTree ⟨"r"⟩ (some " Null ") = .ok (.controller d) ∧
        d.name = " Null " ∧ d.properties.length = 0 := by
  obtain ⟨_, _, _, hcommand⟩ := listed_controller_found_iff_no_blank_at_an_end load_blankSources
  obtain ⟨rows, hrows, hperm, hshown⟩ := hcommand blankTree ⟨"r"⟩ read_blankTree
  have hturn : ("Turn", 0) ∈ rows := hperm.mem_iff.mpr (by decide)
  have hnull : (" Null ", 0) ∈ rows := hperm.mem_iff.mpr (by decide)
  exact ⟨rows, hrows, hturn, hnull, (hshown _ hturn).mp (by decide),
    fun h => absurd ((hshown _ hnull).mpr h) (by decide)⟩

/-- The controller that is listed as ` Null ` is known under no name, that one included. -/
theorem blank_null_is_listed_and_not_found :
    ∃ c, loadCatalog blankTree ⟨"r"⟩ = .ok c ∧ (" Null ", 0) ∈ listControllers c ∧
      c.controller? " Null " = none ∧ c.isController " Null " = false ∧
      listSchema blankTree ⟨"r"⟩ (some " Null ") = .error (.unknownController " Null ") := by
  have hload := loadCatalog_of_read read_blankTree load_blankSources
  refine ⟨blankCatalog, hload, (perm_listControllers blankCatalog).mem_iff.mpr (by
    decide), by decide, by decide, ?_⟩
  rw [listSchema, hload]
  decide

end FighterCheck.Command
