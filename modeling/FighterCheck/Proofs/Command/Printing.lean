import FighterCheck.Command.Run
import FighterCheck.Proofs.Json.Records
import FighterCheck.Proofs.Table.Drawing

/-!
# What a check prints

A check prints the findings that matter at least so much, as JSON or as a table. Either way the list is
said here by what is printed. The JSON is read back, and stands for these findings and no others
(`SaysInJson`). The table has one block of lines for each of them, which carries its severity, its file
and its message (`IsTableOf`); without findings there is none.
-/

namespace FighterCheck.Command

open Json (wellFormed_array_map)
open Table (Carries Frames Grid)

variable {p : Character} {ds : List Diagnostic} {s least : Severity}

/-! ## The findings that are listed -/

/-- The severities from the least that counts to the gravest. -/
def severitiesFrom (least : Severity) : List Severity :=
  [.debug, .info, .warning, .error].dropWhile fun s => decide (s ≠ least)

/-- The findings of a character that have one of these severities, in the order of its report. -/
def findingsFrom (p : Character) (least : Severity) : List Diagnostic :=
  p.results.report.diagnostics.filter fun d => d.severity ∈ severitiesFrom least

theorem atLeast_eq_decide_mem (s least : Severity) :
    s.atLeast least = decide (s ∈ severitiesFrom least) := by
  cases s <;> cases least <;> decide

/-- **The findings shown are those from the least severity on.** -/
theorem shown_eq_findingsFrom (p : Character) (least : Severity) :
    shown p least = findingsFrom p least := by
  rw [shown, Report.atLeast, findingsFrom]
  simp only [atLeast_eq_decide_mem]

theorem mem_severitiesFrom_of_mem {least' : Severity} (h : least' ∈ severitiesFrom least)
    (hs : s ∈ severitiesFrom least') : s ∈ severitiesFrom least := by
  revert h hs
  cases s <;> cases least <;> cases least' <;> decide

/-- **Raising the threshold only takes findings away.** -/
theorem findingsFrom_sublist {least' : Severity} (h : least' ∈ severitiesFrom least)
    (p : Character) : (findingsFrom p least').Sublist (findingsFrom p least) := by
  refine List.monotone_filter_right p.results.report.diagnostics fun d hd => ?_
  exact decide_eq_true (mem_severitiesFrom_of_mem h (of_decide_eq_true hd))

/-! ## Findings in what is printed -/

/-- The text is JSON that lists exactly these findings. -/
def SaysInJson (ds : List Diagnostic) (out : String) : Prop :=
  ∃ v list, Json.read? out = some v ∧ v.fields? ["diagnostics"] = some [some list] ∧
    Report.ofJson? list = some ⟨ds⟩

/-- The lines show a finding: how much it matters, where it was made, and what was found. -/
structure ShowsFinding (d : Diagnostic) (block : List String) : Prop where
  /-- the severity is there -/
  severity : Carries block d.severity.label
  /-- the file is there, or a dash -/
  file : Carries block (d.file.getD "-")
  /-- the message is there -/
  message : Carries block d.message

/-- The text is a table that shows exactly these findings. -/
structure IsTableOf (ds : List Diagnostic) (text : String) : Prop where
  /-- each finding has its row -/
  drawn : text = Grid.draw ⟨[.center, .left, .left], ["Severity", "File", "Message"],
    ds.map fun d => [d.severity.label, d.file.getD "-", d.message]⟩ diagnosticsStyle
  /-- each row has its lines, which show the finding -/
  blocks : ∃ lines blocks, text = "\n".intercalate lines ∧ Frames blocks lines ∧
    List.Forall₂ ShowsFinding ds blocks

/-- What is printed of a character ahead of its findings. -/
def headLines (p : Character) : List String :=
  ["Character: " ++ p.info.displayName ++ " (" ++ p.info.name ++ ")",
    "Definition: " ++ p.definition.path, (overviewTable p).draw .plain]

/-- **What a check of a character prints that lists these findings.** -/
inductive Prints (p : Character) (ds : List Diagnostic) : (json : Bool) → String → Prop
  /-- JSON that lists them -/
  | json {out : String} (h : SaysInJson ds out) : Prints p ds true out
  /-- no table, as there are no findings -/
  | empty (h : ds = []) :
    Prints p ds false (asLines (headLines p ++ ["", countsText p.results.report]))
  /-- a table of them -/
  | table {text : String} (h : ds ≠ []) (htext : IsTableOf ds text) :
    Prints p ds false
      (asLines (headLines p ++ ["", "Diagnostics:", text] ++ ["", countsText p.results.report]))

theorem asLines_singleton (l : String) : asLines [l] = l ++ "\n" := by
  rw [asLines, List.map_singleton, String.join_cons, String.join_nil, String.append_empty]

theorem wellFormed_coordJson (c : LocalCoord) : (coordJson c).WellFormed := by
  refine .object ?_
  simp only [List.forall_mem_cons]
  exact ⟨.number (Json.isNumber_showInt32 _), .number (Json.isNumber_showInt32 _),
    List.forall_mem_nil _⟩

theorem wellFormed_checkJson (p : Character) (ds : List Diagnostic) :
    (checkJson p ds).WellFormed := by
  refine .object ?_
  simp only [List.forall_mem_cons]
  exact ⟨.string _, .string _, .string _, wellFormed_coordJson _, .bool _,
    wellFormed_array_map Diagnostic.wellFormed_toJson _, List.forall_mem_nil _⟩

/-- **The JSON form of a check lists the findings that it shows.** -/
theorem saysInJson_checkJson (p : Character) (ds : List Diagnostic) :
    SaysInJson ds ((checkJson p ds).laidOut 0 ++ "\n") :=
  ⟨_, Report.toJson ⟨ds⟩, Json.read?_laidOut_append_newline (wellFormed_checkJson p ds) 0, rfl,
    Report.ofJson?_toJson ⟨ds⟩⟩

/-- **The table of a check shows the findings**, one below the other. -/
theorem isTableOf_draw (ds : List Diagnostic) :
    IsTableOf ds ((diagnosticsTable ds).draw diagnosticsStyle) := by
  refine ⟨rfl, ?_⟩
  obtain ⟨blocks, hframes, hrows⟩ := Table.exists_blocks_of_full (diagnosticsTable ds) 160
    [none, some 10, some 124] (Nat.le_refl 3) (Nat.le_refl 3)
  refine ⟨_, blocks, rfl, hframes, ?_⟩
  refine (List.forall₂_map_left_iff.mp hrows).imp fun d block hblock => ?_
  have hcolumns : (diagnosticsTable ds).header.length = 3 := rfl
  rw [hcolumns] at hblock
  exact ⟨hblock 0 (by decide) _ rfl, hblock 1 (by decide) _ rfl, hblock 2 (by decide) _ rfl⟩

/-- **A check prints the findings from the least severity on**, in either form. -/
theorem prints_checkLines (least : Severity) (json : Bool) (p : Character) :
    Prints p (findingsFrom p least) json (asLines (checkLines least json p)) := by
  rw [checkLines, shown_eq_findingsFrom]
  cases json with
  | true =>
    refine .json ?_
    rw [if_pos rfl, asLines_singleton]
    exact saysInJson_checkJson p _
  | false =>
    rw [if_neg Bool.false_ne_true]
    split
    · next hds => exact .empty (List.isEmpty_iff.mp hds)
    · next hds => exact .table (fun h => hds (List.isEmpty_iff.mpr h)) (isTableOf_draw _)

end FighterCheck.Command
