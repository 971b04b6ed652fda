import FighterCheck.Diagnostic.Report
import FighterCheck.Proofs.Json.RoundTrip
import FighterCheck.Schema.Property

/-!
# Records are read back from their JSON form

Findings, reports and the rules of the schema are written as JSON and read back from it. A record comes
back if its JSON value is read as the record (`ofJson?_toJson`, for each of them) and the value survives
being written (`Json.read?_compact`, `Json.read?_laidOut`), for which it only has to be well formed.
-/

namespace FighterCheck

namespace Json

variable {α : Type} {toJson : α → Json} {ofJson? : Json → Option α}

/-- The record is read back from either form in which it is written. -/
def ComesBack (toJson : α → Json) (ofJson? : Json → Option α) (x : α) : Prop :=
  (read? (compact (toJson x))).bind ofJson? = some x ∧
    ∀ level, (read? (laidOut level (toJson x))).bind ofJson? = some x

theorem comesBack_of_wellFormed {x : α} (hvalue : (toJson x).WellFormed)
    (h : ofJson? (toJson x) = some x) : ComesBack toJson ofJson? x := by
  refine ⟨?_, fun level => ?_⟩
  · rw [read?_compact hvalue, Option.bind_some, h]
  · rw [read?_laidOut hvalue, Option.bind_some, h]

/-- A list is read back item by item, in its order. -/
theorem list?_map (h : ∀ x, ofJson? (toJson x) = some x) (xs : List α) :
    (array (xs.map toJson)).list? ofJson? = some xs := by
  rw [list?]
  induction xs with
  | nil => rfl
  | cons x xs ih =>
    rw [List.map_cons, List.mapM_cons, h, ih]
    rfl

theorem wellFormed_array_map (h : ∀ x, (toJson x).WellFormed) (xs : List α) :
    (array (xs.map toJson)).WellFormed :=
  .array (List.forall_mem_map.mpr fun x _ => h x)

end Json

open Json (ComesBack comesBack_of_wellFormed list?_map wellFormed_array_map)

namespace Diagnostic

theorem wellFormed_toJson (d : Diagnostic) : d.toJson.WellFormed := by
  refine .object ?_
  simp only [List.forall_mem_cons]
  refine ⟨.string _, .string _, ?_⟩
  cases d.file with
  | none => exact List.forall_mem_nil _
  | some f => exact List.forall_mem_singleton.mpr (.string f)

theorem ofJson?_toJson (d : Diagnostic) : ofJson? d.toJson = some d := by
  obtain ⟨message, severity, file⟩ := d
  have hseverity := Severity.ofJson?_toJson severity
  cases file with
  | none =>
    have hfields : (toJson ⟨message, severity, none⟩).fields? ["message", "severity", "file"] =
        some [some (.string message), some severity.toJson, none] := rfl
    simp only [ofJson?, hfields, hseverity]
    rfl
  | some f =>
    have hfields : (toJson ⟨message, severity, some f⟩).fields? ["message", "severity", "file"] =
        some [some (.string message), some severity.toJson, some (.string f)] := rfl
    simp only [ofJson?, hfields, hseverity]
    rfl

end Diagnostic

namespace Report

theorem wellFormed_toJson (r : Report) : r.toJson.WellFormed :=
  wellFormed_array_map Diagnostic.wellFormed_toJson r.diagnostics

theorem ofJson?_toJson (r : Report) : ofJson? r.toJson = some r := by
  rw [ofJson?, toJson, list?_map Diagnostic.ofJson?_toJson]
  rfl

end Report

namespace Schema

theorem PropType.wellFormed_toJson (t : PropType) : t.toJson.WellFormed := .string t.name

namespace Property

theorem wellFormed_toJson (p : Property) : p.toJson.WellFormed := by
  refine .object ?_
  simp only [List.forall_mem_cons]
  exact ⟨.string _, wellFormed_array_map PropType.wellFormed_toJson _, .bool _,
    wellFormed_array_map .string _, List.forall_mem_nil _⟩

theorem ofJson?_toJson (p : Property) : ofJson? p.toJson = some p := by
  have hfields : p.toJson.fields? ["name", "types", "optional", "enum_options"] =
      some [some (.string p.name), some (.array (p.types.map PropType.toJson)),
        some (.bool p.optional), some (.array (p.options.map .string))] := rfl
  have htypes := list?_map PropType.ofJson?_toJson p.types
  have htext : ∀ s, Json.string? (.string s) = some s := fun _ => rfl
  have hoptions := list?_map htext p.options
  simp only [ofJson?, hfields, htypes, hoptions]
  rfl

end Property

namespace SectionRules

theorem wellFormed_toJson (s : SectionRules) : s.toJson.WellFormed := by
  refine .object ?_
  simp only [List.forall_mem_cons]
  exact ⟨.string _, PropType.wellFormed_toJson _, .bool _,
    wellFormed_array_map Property.wellFormed_toJson _, List.forall_mem_nil _⟩

theorem ofJson?_toJson (s : SectionRules) : ofJson? s.toJson = some s := by
  have hfields : s.toJson.fields? ["name", "header_type", "allows_comment", "properties"] =
      some [some (.string s.name), some s.headerType.toJson, some (.bool s.allowsComment),
        some (.array (s.properties.map Property.toJson))] := rfl
  have hheader := PropType.ofJson?_toJson s.headerType
  have hproperties := list?_map Property.ofJson?_toJson s.properties
  simp only [ofJson?, hfields, hheader, hproperties]
  rfl

end SectionRules

namespace Controller

theorem wellFormed_toJson (c : Controller) : c.toJson.WellFormed := by
  refine .object ?_
  simp only [List.forall_mem_cons]
  exact ⟨.string _, wellFormed_array_map Property.wellFormed_toJson _,
    List.forall_mem_nil _⟩

theorem ofJson?_toJson (c : Controller) : ofJson? c.toJson = some c := by
  have hfields : c.toJson.fields? ["name", "properties"] =
      some [some (.string c.name), some (.array (c.properties.map Property.toJson))] := rfl
  have hproperties := list?_map Property.ofJson?_toJson c.properties
  simp only [ofJson?, hfields, hproperties]
  rfl

end Controller

end Schema

/-- **Nothing is lost in JSON.** Reports, findings, the rules of sections, controllers and parameters are
read back from both forms in which they are written, whatever their texts and lists hold; and a finding
has a member for its file if and only if it concerns one. -/
theorem records_come_back_from_json :
    (∀ r : Report, ComesBack Report.toJson Report.ofJson? r) ∧
      (∀ d : Diagnostic, ComesBack Diagnostic.toJson Diagnostic.ofJson? d) ∧
      (∀ s : Schema.SectionRules, ComesBack Schema.SectionRules.toJson Schema.SectionRules.ofJson? s) ∧
      (∀ c : Schema.Controller, ComesBack Schema.Controller.toJson Schema.Controller.ofJson? c) ∧
      (∀ p : Schema.Property, ComesBack Schema.Property.toJson Schema.Property.ofJson? p) ∧
      ∀ d : Diagnostic, ∃ ms,
        Json.read? (Json.compact d.toJson) = some (.object ms) ∧
          (∀ level, Json.read? (Json.laidOut level d.toJson) = some (.object ms)) ∧
          ms.map Prod.fst = ["message", "severity"] ++ if d.file.isSome then ["file"] else [] := by
  refine ⟨fun r => ?_, fun d => ?_, fun s => ?_, fun c => ?_, fun p => ?_, fun d => ?_⟩
  · exact comesBack_of_wellFormed r.wellFormed_toJson r.ofJson?_toJson
  · exact comesBack_of_wellFormed d.wellFormed_toJson d.ofJson?_toJson
  · exact comesBack_of_wellFormed s.wellFormed_toJson s.ofJson?_toJson
  · exact comesBack_of_wellFormed c.wellFormed_toJson c.ofJson?_toJson
  · exact comesBack_of_wellFormed p.wellFormed_toJson p.ofJson?_toJson
  · refine ⟨_, Json.read?_compact d.wellFormed_toJson, Json.read?_laidOut d.wellFormed_toJson, ?_⟩
    cases hfile : d.file <;> rfl

end FighterCheck
