import FighterCheck.Proofs.Text.Cutting
import FighterCheck.Table.Grid
import FighterCheck.Text.Blank
import Mathlib.Data.List.Forall2

/-!
# What a drawn table shows

A cell is cut into lines, which are given their styles, padded, and put between bars. None of this loses
a character that shows: the characters of a cell that are not blank stand in the lines of its row, in
their order (`carries_rowLines`). The lines of a row begin with a bar, and those between rows do not. So a
table drawn in full can be taken apart again into the blocks of its rows, one for each, and each of them
carries the cells of its row (`exists_blocks_of_full`).

The order of the characters is what is said of a cell, and not that its text stands somewhere in one
piece, since padding and line breaks may come in between.
-/

namespace FighterCheck.Table

/-- The characters of a text that are not blank stand in the lines, in their order. -/
def Carries (block : List String) (s : String) : Prop :=
  (s.toList.filter fun c => !Text.isBlank c).Sublist (block.flatMap String.toList)

/-- **Lines that frame blocks**: a head and the first double rule, the blocks with a rule between any two,
and a rule at the end. Each kind of line is told by the character that it begins with. -/
def Frames (blocks : List (List String)) (lines : List String) : Prop :=
  ∃ head double between last,
    lines = head ++ [double] ++ (blocks.intersperse [between]).flatten ++ [last] ∧
      (∀ l ∈ head, l.toList.head? ≠ some '╞') ∧ double.toList.head? = some '╞' ∧
      between.toList.head? = some '├' ∧ last.toList.head? = some '╰' ∧
      ∀ block ∈ blocks, ∀ l ∈ block, l.toList.head? = some '│'

variable {g : Grid} {bar s : String} {ws : List Nat} {row : List String} {i : Nat}

/-! ## The lines of a cell -/

/-- Styles are added to lines. -/
theorem flatten_sublist_carryStyles (styles ls : List (List Char)) :
    ls.flatten.Sublist (Text.carryStyles styles ls).flatten := by
  induction ls generalizing styles with
  | nil => exact List.nil_sublist _
  | cons l ls ih =>
    rw [Text.carryStyles, List.flatten_cons, List.flatten_cons]
    refine List.Sublist.append ?_ (ih _)
    exact (List.sublist_append_right _ l).trans (List.sublist_append_left _ _)

theorem carries_styledLines (s : String) : Carries (Text.styledLines s) s := by
  have hlines : (Text.styledLines s).flatMap String.toList =
      (Text.carryStyles [] (Text.split '\n' s.toList)).flatten := by
    rw [Text.styledLines, List.flatMap_map]
    simp only [String.toList_ofList]
    exact List.flatMap_id
  rw [Carries, hlines]
  refine List.Sublist.trans ?_ (flatten_sublist_carryStyles [] _)
  -- a line feed is blank, so that nothing else is lost in cutting
  rw [Text.flatten_split]
  refine List.monotone_filter_right s.toList fun c hc => ?_
  have hfeed : c ≠ '\n' := by
    rintro rfl
    exact absurd hc (by decide)
  exact decide_eq_true hfeed

/-! ## The lines of a row -/

/-- A cell holds its line. -/
theorem sublist_cell (a : Alignment) (w : Nat) (s : String) :
    s.toList.Sublist (cell a w (some s)).toList := by
  unfold cell
  dsimp only
  rw [String.toList_append, String.toList_append]
  exact (List.sublist_append_right _ _).trans (List.sublist_append_left _ _)

theorem sublist_intercalate {part : String} {parts : List String} (h : part ∈ parts) (sep : String) :
    part.toList.Sublist (sep.intercalate parts).toList := by
  induction parts with
  | nil => exact absurd h List.not_mem_nil
  | cons first parts ih =>
    cases parts with
    | nil => rw [String.intercalate_singleton, List.mem_singleton.mp h]
    | cons second parts =>
      rw [String.intercalate_cons_cons, String.toList_append, String.toList_append]
      rcases List.mem_cons.mp h with rfl | h
      · exact (List.sublist_append_left _ _).trans (List.sublist_append_left _ _)
      · exact (ih h).trans (List.sublist_append_right _ _)

/-- Lines that are held by others one by one are held by all of them. -/
theorem sublist_flatMap_range {ls : List String} {line : Nat → String} {n : Nat} (hn : ls.length ≤ n)
    (h : ∀ j (l : String), ls[j]? = some l → l.toList.Sublist (line j).toList) :
    (ls.flatMap String.toList).Sublist (((List.range n).map line).flatMap String.toList) := by
  induction ls generalizing n line with
  | nil => exact List.nil_sublist _
  | cons l ls ih =>
    obtain ⟨n, rfl⟩ := Nat.exists_eq_add_one_of_ne_zero (Nat.ne_zero_of_lt hn)
    rw [List.range_succ_eq_map, List.map_cons, List.flatMap_cons, List.flatMap_cons, List.map_map]
    refine (h 0 l List.getElem?_cons_zero).append (ih (Nat.le_of_succ_le_succ hn) fun j l' hl => ?_)
    exact h (j + 1) l' (List.getElem?_cons_succ.trans hl)

/-- A row is as high as any of its cells. -/
theorem length_le_height {ls : List String} {cells : List (List String)} (h : ls ∈ cells) :
    ls.length ≤ (cells.map List.length).max?.getD 0 := by
  have hmem := List.mem_map_of_mem (f := List.length) h
  cases hmax : (cells.map List.length).max? with
  | none =>
    rw [List.max?_eq_none_iff.mp hmax] at hmem
    exact absurd hmem List.not_mem_nil
  | some n => exact (List.max?_eq_some_iff.mp hmax).2 _ hmem

/-- **The lines of a row carry its cells.** -/
theorem carries_rowLines (hwidth : i < ws.length) (halign : i < g.alignments.length)
    (hs : row[i]? = some s) : Carries (g.rowLines bar ws row) s := by
  refine (carries_styledLines s).trans ?_
  have hcells : Text.styledLines s ∈
      (List.range ws.length).map fun i => Text.styledLines (row[i]?.getD "") :=
    List.mem_map.mpr ⟨i, List.mem_range.mpr hwidth, by rw [hs, Option.getD_some]⟩
  refine sublist_flatMap_range (length_le_height hcells) fun j l hl => ?_
  -- the cell is one of the columns that each line is put together from
  have hcolumn : ((ws[i], g.alignments[i]), Text.styledLines s) ∈
      (ws.zip g.alignments).zip
        ((List.range ws.length).map fun i => Text.styledLines (row[i]?.getD "")) := by
    refine List.mem_iff_getElem?.mpr ⟨i, List.getElem?_zip_eq_some.mpr
      ⟨List.getElem?_zip_eq_some.mpr ⟨List.getElem?_eq_getElem hwidth, List.getElem?_eq_getElem halign⟩,
        ?_⟩⟩
    rw [List.getElem?_map, List.getElem?_range hwidth, Option.map_some, hs, Option.getD_some]
  rw [String.toList_append, String.toList_append]
  refine (sublist_cell g.alignments[i] ws[i] l).trans (List.Sublist.trans ?_
    ((List.sublist_append_right _ _).trans (List.sublist_append_left _ _)))
  exact sublist_intercalate (List.mem_map.mpr ⟨_, hcolumn, congrArg (cell _ _) hl⟩) bar

/-- A line of a row begins with a bar. -/
theorem head?_of_mem_rowLines {l : String} (h : l ∈ g.rowLines bar ws row) :
    l.toList.head? = some '│' := by
  obtain ⟨j, _, rfl⟩ := List.mem_map.mp h
  rw [String.toList_append, String.toList_append]
  rfl

/-! ## The lines of a table -/

/-- A rule begins with what it is started with. -/
theorem head?_rule {start : String} {c : Char} (h : start.toList = [c]) (line cross stop : String) :
    (rule start line cross stop ws).toList.head? = some c := by
  rw [rule, String.toList_append, String.toList_append, h]
  rfl

theorem length_widths_full (total : Nat) (limits : List (Option Nat)) :
    (g.widths (.full total limits)).length = min g.header.length limits.length := by
  simp [Grid.widths, Grid.stretch, Grid.limited, Grid.neededWidths]

/-- **A table in full shows its rows**: its lines frame one block for each row, in order, and each block
carries the cells of its row. -/
theorem exists_blocks_of_full (g : Grid) (total : Nat) (limits : List (Option Nat))
    (halign : g.header.length ≤ g.alignments.length) (hlimits : g.header.length ≤ limits.length) :
    ∃ blocks, Frames blocks (g.lines (.full total limits)) ∧
      List.Forall₂ (fun row block => ∀ i < g.header.length, ∀ s, row[i]? = some s → Carries block s)
        g.rows blocks := by
  refine ⟨g.rows.map (g.rowLines "│" (g.widths (.full total limits))),
    ⟨_, _, _, _, rfl, fun l hl => ?_, head?_rule rfl _ _ _, head?_rule rfl _ _ _,
      head?_rule rfl _ _ _, fun block hblock l hl => ?_⟩, ?_⟩
  · rcases List.mem_append.mp hl with hl | hl
    · rw [List.mem_singleton.mp hl, head?_rule rfl]
      decide
    · rw [head?_of_mem_rowLines hl]
      decide
  · obtain ⟨row, _, rfl⟩ := List.mem_map.mp hblock
    exact head?_of_mem_rowLines hl
  · rw [List.forall₂_map_right_iff, List.forall₂_same]
    intro row _ i hi s hs
    refine carries_rowLines ?_ (Nat.lt_of_lt_of_le hi halign) hs
    rw [length_widths_full, Nat.min_eq_left hlimits]
    exact hi

end FighterCheck.Table
