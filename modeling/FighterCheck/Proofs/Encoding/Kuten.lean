import FighterCheck.Encoding.Kuten
import Mathlib.Data.List.Basic

/-!
# The character set as a table

What is looked up in the table is a fact about its data, and what the data has to satisfy is little: a
row has 94 cells at most, no character in it is written in another way (`fitsRow`), no two rows have the
same number, and the rows that are only read hold nothing that is not also in rows that are written
(`rowsText_selected`). The data are checked row by row, and the rest follows: where a character is written,
it is read (`kutenChar?_of_kutenOf?`), and every character that is read somewhere is written somewhere
(`exists_kutenOf?`).
-/

namespace FighterCheck.Encoding

/-! ## The data -/

/-- The character is none that is written on its own, stands for another when it is written, or is
private. -/
def isSetChar (c : Char) : Bool :=
  0x80 < c.toNat && !(0xE000 ≤ c.toNat && c.toNat ≤ 0xF8FF) &&
    !(0xFF61 ≤ c.toNat && c.toNat ≤ 0xFF9F) && c != '¥' && c != '‾' && c != '−'

/-- A row has 94 cells at most, each empty or with a character of the set. -/
def fitsRow (cs : List Char) : Bool := cs.length ≤ 94 && cs.all fun c => c == '.' || isSetChar c

/-- The rows that are written. -/
def writtenData : List (Nat × String) :=
  kutenSigns ++ kutenLevelOne ++ kutenLevelTwo ++ kutenAdditional

theorem fitsRow_of_mem_writtenData : ∀ row ∈ writtenData, fitsRow row.2.toList = true := by
  simp only [writtenData, List.forall_mem_append, kutenSigns, kutenLevelOne, kutenLevelTwo,
    kutenAdditional, List.forall_mem_cons, List.not_mem_nil, false_implies, implies_true, and_true]
  and_intros
  all_goals
    rw [String.toList_ofList]
    decide +kernel

/-- The cells of some rows, one row after the other. -/
def rowsText (rows : List (Nat × String)) : List Char := rows.flatMap fun row => row.2.toList

/-- The rows that are only read hold what rows that are written hold, in another order. -/
theorem rowsText_selected :
    rowsText kutenSelected = ((rowsText kutenAdditional).drop 28).take 360 ++ ['.', '.'] ++
      (rowsText kutenAdditional).take 10 ++ ((rowsText kutenAdditional).drop 20).take 4 := by
  simp only [rowsText, kutenSelected, kutenAdditional, List.flatMap_cons, List.flatMap_nil]
  iterate 9 rw [String.toList_ofList]
  decide +kernel

/-- No two rows have the same number. -/
theorem nodup_rows : ((writtenData ++ kutenSelected).map Prod.fst).Nodup := by decide +kernel

/-- The rows that are written lie below the 85th or behind the private ones. -/
theorem row_bounds :
    ∀ row ∈ writtenData.map Prod.fst, 1 ≤ row ∧ row ≤ 84 ∨ 115 ≤ row ∧ row ≤ 119 := by
  decide +kernel

/-! ## Looking up -/

variable {row cell : Nat} {text : String} {c : Char}

/-- The cells of a row with this text. -/
def cellsOf (text : String) : List (Option Char) :=
  text.toList.map fun c => if c = '.' then none else some c

theorem some_mem_cellsOf : some c ∈ cellsOf text ↔ c ∈ text.toList ∧ c ≠ '.' := by
  rw [cellsOf, List.mem_map]
  constructor
  · rintro ⟨x, hx, hc⟩
    split at hc
    · exact nomatch hc
    · next hne =>
      obtain rfl := Option.some.inj hc
      exact ⟨hx, hne⟩
  · rintro ⟨hc, hne⟩
    exact ⟨c, hc, if_neg hne⟩

theorem exists_text_of_mem {rows : List (Nat × String)} {cells : List (Option Char)}
    (h : (row, cells) ∈ rows.map kutenCells) : ∃ text, (row, text) ∈ rows ∧ cellsOf text = cells := by
  obtain ⟨⟨row', text⟩, hmem, heq⟩ := List.mem_map.mp h
  obtain ⟨hrow, hcells⟩ : row' = row ∧ cellsOf text = cells := Prod.mk.inj heq
  exact ⟨text, hrow ▸ hmem, hcells⟩

theorem rows_eq :
    writtenRows ++ readOnlyRows = (writtenData ++ kutenSelected).map kutenCells :=
  (List.map_append ..).symm

/-- The cells of a row are found under its number. -/
theorem lookup_of_mem (h : (row, text) ∈ writtenData ++ kutenSelected) :
    (writtenRows ++ readOnlyRows).lookup row = some (cellsOf text) := by
  obtain ⟨before, after, hsplit⟩ := List.append_of_mem h
  have hnodup := nodup_rows
  rw [hsplit, List.map_append, List.map_cons, List.nodup_append] at hnodup
  rw [rows_eq, hsplit, List.map_append, List.map_cons, List.lookup_eq_some_iff]
  refine ⟨before.map kutenCells, after.map kutenCells, rfl, fun p hp => ?_⟩
  obtain ⟨q, hq, rfl⟩ := List.mem_map.mp hp
  rw [bne_iff_ne]
  exact (hnodup.2.2 q.1 (List.mem_map_of_mem hq) row List.mem_cons_self).symm

/-- What is found in a cell is in the data. -/
theorem mem_of_kutenChar? (h : kutenChar? row cell = some c) :
    ∃ text, (row, text) ∈ writtenData ++ kutenSelected ∧ c ∈ text.toList ∧ c ≠ '.' := by
  obtain ⟨cells, hcells, hc⟩ := Option.bind_eq_some_iff.mp h
  obtain ⟨before, after, hsplit, _⟩ := List.lookup_eq_some_iff.mp hcells
  have hmem : (row, cells) ∈ (writtenData ++ kutenSelected).map kutenCells := by
    rw [← rows_eq, hsplit]
    exact List.mem_append_right before List.mem_cons_self
  obtain ⟨text, hdata, rfl⟩ := exists_text_of_mem hmem
  exact ⟨text, hdata, some_mem_cellsOf.mp (List.mem_of_getElem? (Option.join_eq_some_iff.mp hc))⟩

/-- **What is in some row is in a row that is written.** -/
theorem exists_written_of_mem (h : (row, text) ∈ writtenData ++ kutenSelected)
    (hc : c ∈ text.toList) (hne : c ≠ '.') : ∃ q ∈ writtenData, c ∈ q.2.toList := by
  rcases List.mem_append.mp h with h | h
  · exact ⟨(row, text), h, hc⟩
  · have hselected : c ∈ rowsText kutenSelected := List.mem_flatMap.mpr ⟨(row, text), h, hc⟩
    have hadditional : c ∈ rowsText kutenAdditional := by
      rw [rowsText_selected] at hselected
      simp only [List.mem_append, List.mem_cons, List.not_mem_nil, or_false] at hselected
      rcases hselected with ((hmem | hdot | hdot) | hmem) | hmem
      · exact List.mem_of_mem_drop (List.mem_of_mem_take hmem)
      · exact absurd hdot hne
      · exact absurd hdot hne
      · exact List.mem_of_mem_take hmem
      · exact List.mem_of_mem_drop (List.mem_of_mem_take hmem)
    obtain ⟨q, hq, hcq⟩ := List.mem_flatMap.mp hadditional
    exact ⟨q, List.mem_append_right _ hq, hcq⟩

/-- **A character in a cell is one of the set.** -/
theorem isSetChar_of_kutenChar? (h : kutenChar? row cell = some c) : isSetChar c = true := by
  obtain ⟨text, hmem, hc, hne⟩ := mem_of_kutenChar? h
  obtain ⟨q, hq, hcq⟩ := exists_written_of_mem hmem hc hne
  have hfits := fitsRow_of_mem_writtenData q hq
  rw [fitsRow, Bool.and_eq_true, List.all_eq_true] at hfits
  have hor := hfits.2 c hcq
  rwa [beq_false_of_ne hne, Bool.false_or] at hor

/-- **Every character that is read somewhere is written somewhere.** -/
theorem exists_kutenOf? (h : kutenChar? row cell = some c) :
    ∃ row' cell', kutenOf? c = some (row', cell') := by
  obtain ⟨text, hmem, hc, hne⟩ := mem_of_kutenChar? h
  obtain ⟨q, hq, hcq⟩ := exists_written_of_mem hmem hc hne
  have hsome : (kutenOf? c).isSome = true := by
    rw [kutenOf?, List.findSome?_isSome_iff]
    refine ⟨kutenCells q, List.mem_map_of_mem hq, ?_⟩
    rw [Option.isSome_map, List.findIdx?_isSome, List.any_eq_true]
    exact ⟨some c, some_mem_cellsOf.mpr ⟨hcq, hne⟩, beq_self_eq_true _⟩
  obtain ⟨⟨row', cell'⟩, hp⟩ := Option.isSome_iff_exists.mp hsome
  exact ⟨row', cell', hp⟩

/-- A character is written in the first row that it is in. -/
theorem kutenOf?_of_first {before after : List (Nat × String)} {i : Nat}
    (hsplit : writtenData = before ++ (row, text) :: after)
    (hbefore : ∀ q ∈ before, c ∉ q.2.toList)
    (hfound : (cellsOf text).findIdx? (· == some c) = some i) : kutenOf? c = some (row, i + 1) := by
  refine List.findSome?_eq_some_iff.mpr
    ⟨before.map kutenCells, (row, cellsOf text), after.map kutenCells, ?_, ?_, fun p hp => ?_⟩
  · rw [show writtenRows = writtenData.map kutenCells from rfl, hsplit, List.map_append,
      List.map_cons]
    rfl
  · exact congrArg (Option.map _) hfound
  · obtain ⟨q, hq, rfl⟩ := List.mem_map.mp hp
    refine Option.map_eq_none_iff.mpr (List.findIdx?_eq_none_iff.mpr fun cell hcell => ?_)
    rw [beq_eq_false_iff_ne]
    rintro rfl
    exact hbefore q hq (some_mem_cellsOf.mp hcell).1

/-- **Where a character is written, it is read**, and that is a cell of a row that is written. -/
theorem kutenChar?_of_kutenOf? (h : kutenOf? c = some (row, cell)) :
    kutenChar? row cell = some c ∧ (1 ≤ row ∧ row ≤ 84 ∨ 115 ≤ row ∧ row ≤ 119) ∧
      1 ≤ cell ∧ cell ≤ 94 := by
  obtain ⟨⟨row', cells⟩, hmem, hfound⟩ := List.exists_of_findSome?_eq_some h
  obtain ⟨i, hi, hcell⟩ := Option.map_eq_some_iff.mp hfound
  obtain ⟨rfl, rfl⟩ := Prod.mk.inj hcell
  obtain ⟨text, hdata, rfl⟩ := exists_text_of_mem hmem
  obtain ⟨hlt, hc, _⟩ := List.findIdx?_eq_some_iff_getElem.mp hi
  have hlength : text.toList.length ≤ 94 := by
    have hfits := fitsRow_of_mem_writtenData (row', text) hdata
    rw [fitsRow, Bool.and_eq_true, decide_eq_true_iff] at hfits
    exact hfits.1
  have hlt' : i < text.toList.length := by simpa [cellsOf] using hlt
  refine ⟨?_, row_bounds row' (List.mem_map_of_mem hdata), by omega, by omega⟩
  rw [kutenChar?, lookup_of_mem (List.mem_append_left _ hdata), Option.bind_some, Nat.add_sub_cancel,
    List.getElem?_eq_getElem hlt, Option.join_some]
  exact beq_iff_eq.mp hc

end FighterCheck.Encoding
