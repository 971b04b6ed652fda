import FighterCheck.Proofs.Text.AsciiCase
import FighterCheck.Schema.Catalog
import Mathlib.Data.List.Dedup

/-!
# Maps by name keep the first of equal names

Names that are the same but for ASCII case are one to a map. What is put into an empty map for such names stays
with the first of them, spelling and value (`NameMap.find?_ofList`), and all that is put in later is given
back (`NameMap.offer_ofList_of_mem`). So the map is a list of first insertions: those whose name is equal to none
before it, in ascending order of the folded names and not in that of the insertions
(`NameMap.mem_toList_ofList`, `NameMap.pairwise_toList_ofList`).
-/

namespace FighterCheck

namespace NameMap

open Text (asciiFold sameAscii)

variable {α : Type}

/-- The map after these values have been recorded under their names, one after another. -/
def ofList (es : List (String × α)) : NameMap α := es.foldl (fun m e => m.insert e.1 e.2) Registry.empty

variable {m : NameMap α} {es : List (String × α)} {e : String × α} {name key : String} {v : α}

theorem find?_insert (m : NameMap α) (e : String × α) (key : String) :
    (m.insert e.1 e.2).find? key = (m.find? key).or (if asciiFold e.1 = key then some e else none) := by
  rw [insert, Registry.find?_record]
  by_cases h : asciiFold e.1 = key
  · rw [if_pos h.symm, if_pos h, h]
  · rw [if_neg (Ne.symm h), if_neg h, Option.or_none]

theorem find?_foldl_insert (m : NameMap α) (es : List (String × α)) (key : String) :
    (es.foldl (fun m e => m.insert e.1 e.2) m).find? key =
      (m.find? key).or (es.find? fun e => asciiFold e.1 == key) := by
  induction es generalizing m with
  | nil => exact Option.or_none.symm
  | cons e es ih =>
    rw [List.foldl_cons, ih, find?_insert, Option.or_assoc, List.find?_cons]
    by_cases h : asciiFold e.1 = key
    · rw [if_pos h, h, beq_self_eq_true, Option.some_or]
    · rw [if_neg h, beq_false_of_ne h, Option.none_or]

/-- **The first insertion of equal names is kept.** -/
theorem find?_ofList (es : List (String × α)) (key : String) :
    (ofList es).find? key = es.find? fun e => asciiFold e.1 == key := by
  rw [ofList, find?_foldl_insert, Registry.find?_empty, Option.none_or]

theorem value?_ofList (es : List (String × α)) (name : String) :
    (ofList es).value? name = (es.find? (sameAscii ·.1 name)).map (·.2) := by
  rw [value?, find?_ofList]
  rfl

theorem spelling?_ofList (es : List (String × α)) (name : String) :
    (ofList es).spelling? name = (es.find? (sameAscii ·.1 name)).map (·.1) := by
  rw [spelling?, find?_ofList]
  rfl

theorem hasName_ofList (es : List (String × α)) (name : String) :
    (ofList es).hasName name = (es.find? (sameAscii ·.1 name)).isSome := by
  rw [hasName, Registry.contains, find?_ofList]
  rfl

theorem hasName_ofList_iff :
    (ofList es).hasName name = true ↔ ∃ e ∈ es, sameAscii e.1 name = true := by
  rw [hasName_ofList, List.find?_isSome]

theorem hasName_ofList_eq_false_iff :
    (ofList es).hasName name = false ↔ ∀ e ∈ es, sameAscii e.1 name = false := by
  rw [← Bool.not_eq_true, hasName_ofList_iff]
  simp only [not_exists, not_and, Bool.not_eq_true]

theorem ofList_concat (es : List (String × α)) (name : String) (v : α) :
    ofList (es ++ [(name, v)]) = (ofList es).insert name v := List.foldl_concat _ _ _ _

/-! ## What is given back -/

/-- **A value for a name that has one is given back**, and the map stays as it is. -/
theorem offer_of_hasName (h : m.hasName name = true) (v : α) : m.offer name v = (some v, m) := by
  have hfind : m.find? (asciiFold name) ≠ none := Option.isSome_iff_ne_none.mp h
  rw [offer, if_pos h, insert, Registry.record_eq_self _ hfind]

theorem offer_fst_eq_none_iff : (m.offer name v).1 = none ↔ m.hasName name = false := by
  rw [offer]
  cases m.hasName name <;> simp

/-- What is offered is given back by a map that it leaves as it is, exactly where its name has a value. -/
theorem offer_eq_iff : m.offer name v = (some v, m) ↔ m.hasName name = true := by
  refine ⟨fun h => ?_, fun h => offer_of_hasName h v⟩
  rw [← Bool.not_eq_false, ← offer_fst_eq_none_iff (v := v), h]
  exact Option.some_ne_none v

/-! ## The list of a map -/

/-- An entry is kept under its folded name if it is the first of that name. -/
theorem mem_entries_ofList :
    (key, e) ∈ (ofList es).entries ↔ es.find? (fun e => asciiFold e.1 == key) = some e := by
  rw [Registry.mem_entries_iff, find?_ofList]

theorem key_of_mem_entries_ofList {p : String × String × α} (h : p ∈ (ofList es).entries) :
    p.1 = asciiFold p.2.1 := by
  obtain ⟨key, e⟩ := p
  exact (beq_iff_eq.mp (List.find?_some (mem_entries_ofList.mp h) :)).symm

/-- **The list has the first insertion of each name.** -/
theorem mem_toList_ofList : e ∈ (ofList es).toList ↔ es.find? (sameAscii ·.1 e.1) = some e := by
  rw [toList, List.mem_map]
  constructor
  · rintro ⟨⟨key, first⟩, hmem, rfl⟩
    have hkey : key = asciiFold first.1 := key_of_mem_entries_ofList hmem
    exact mem_entries_ofList.mp (hkey ▸ hmem)
  · exact fun h => ⟨(asciiFold e.1, e), mem_entries_ofList.mpr h, rfl⟩

/-- **The list is in ascending order of the folded names.** -/
theorem pairwise_toList_ofList (es : List (String × α)) :
    (ofList es).toList.Pairwise fun a b => asciiFold a.1 < asciiFold b.1 := by
  rw [toList, List.pairwise_map]
  refine (ofList es).ascending.imp_of_mem fun ha hb hlt => ?_
  rwa [key_of_mem_entries_ofList ha, key_of_mem_entries_ofList hb] at hlt

/-- The list has one name of each kind that was put in. -/
theorem perm_dedup_ofList (es : List (String × α)) :
    ((ofList es).toList.map (asciiFold ·.1)).Perm (es.map (asciiFold ·.1)).dedup := by
  have hnodup : ((ofList es).toList.map (asciiFold ·.1)).Nodup := by
    rw [List.Nodup, List.pairwise_map]
    exact (pairwise_toList_ofList es).imp fun hlt => String.ne_of_lt hlt
  refine (List.perm_ext_iff_of_nodup hnodup (List.nodup_dedup _)).mpr fun key => ?_
  rw [List.mem_dedup, List.mem_map, List.mem_map]
  constructor
  · rintro ⟨e, he, rfl⟩
    exact ⟨e, List.mem_of_find?_eq_some (mem_toList_ofList.mp he), rfl⟩
  · rintro ⟨e, he, rfl⟩
    -- the first with the name of this one is in the list
    obtain ⟨first, hfirst⟩ := Option.isSome_iff_exists.mp
      (List.find?_isSome.mpr ⟨e, he, Text.sameAscii_refl e.1⟩ :
        (es.find? (sameAscii ·.1 e.1)).isSome)
    have hsame : asciiFold first.1 = asciiFold e.1 := Text.sameAscii_iff.mp (List.find?_some hfirst :)
    refine ⟨first, mem_toList_ofList.mpr ?_, hsame⟩
    rw [← hfirst]
    simp only [sameAscii, hsame]

theorem size_ofList (es : List (String × α)) :
    (ofList es).size = (es.map (asciiFold ·.1)).dedup.length := by
  have hlength := (perm_dedup_ofList es).length_eq
  rwa [List.length_map, toList, List.length_map] at hlength

/-- **A map keeps the first of equal names**, where names are equal if they are the same but for ASCII case.
Let values have been put into an empty map under some names. One more value is given back, and the map stays
as it is, if and only if an equal name is among these; otherwise nothing is given back. A name finds the
value of the first name equal to it, with its spelling, and nothing if there is none. The map is as large as there are
different names among the folded ones, and its list has each of these once, in strictly ascending order, with
the spelling and the value that were put in first. -/
theorem names_keep_their_first_insertion (es : List (String × α)) :
    (∀ name v,
      ((ofList es).offer name v = (some v, ofList es) ↔ ∃ e ∈ es, sameAscii e.1 name = true) ∧
      (((ofList es).offer name v).1 = none ↔ ∀ e ∈ es, sameAscii e.1 name = false) ∧
      ((ofList es).offer name v).2 = ofList (es ++ [(name, v)])) ∧
    (∀ name, (ofList es).value? name = (es.find? (sameAscii ·.1 name)).map (·.2) ∧
      (ofList es).spelling? name = (es.find? (sameAscii ·.1 name)).map (·.1) ∧
      (ofList es).hasName name = (es.find? (sameAscii ·.1 name)).isSome) ∧
    (ofList es).size = (es.map (asciiFold ·.1)).dedup.length ∧
    ((ofList es).toList.map (asciiFold ·.1)).Perm (es.map (asciiFold ·.1)).dedup ∧
    ((ofList es).toList.Pairwise fun a b => asciiFold a.1 < asciiFold b.1) ∧
    ∀ e, e ∈ (ofList es).toList ↔ es.find? (sameAscii ·.1 e.1) = some e := by
  refine ⟨fun name v => ⟨offer_eq_iff.trans hasName_ofList_iff,
      offer_fst_eq_none_iff.trans hasName_ofList_eq_false_iff, (ofList_concat es name v).symm⟩,
    fun name => ⟨value?_ofList es name, spelling?_ofList es name, hasName_ofList es name⟩, size_ofList es,
    perm_dedup_ofList es, pairwise_toList_ofList es, fun e => mem_toList_ofList⟩

/-- An accented letter is not folded, and an ASCII letter beside it is: the list has two of these four names,
each as it was written first, the one that is put in second standing first. -/
example :
    (ofList [("PosÉ", 1), ("Null", 2), ("posÉ", 3), ("NULL", 4)]).toList = [("Null", 2), ("PosÉ", 1)] := by
  decide

end NameMap

end FighterCheck
