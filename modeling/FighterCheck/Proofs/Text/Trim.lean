import FighterCheck.Proofs.Text.Cutting
import FighterCheck.Text.Blank

/-!
# What trimming leaves

Trimming leaves a text that neither begins nor ends with a blank (`Trimmed`), and such a text it leaves
alone: `trim_eq_self_iff` says that these are exactly its fixed points. What is left is a stretch of the
text, and blanks put around a text make no difference to it.
-/

namespace FighterCheck.Text

variable {c : Char} {cs : List Char}

/-- The text neither begins nor ends with a blank. -/
structure Trimmed (cs : List Char) : Prop where
  /-- it does not begin with a blank -/
  head : ∀ c ∈ cs.head?, isBlank c = false
  /-- it does not end with a blank -/
  last : ∀ c ∈ cs.getLast?, isBlank c = false

/-- The first character of a beginning is that of the whole. -/
theorem head?_of_isPrefix {as bs : List Char} (h : as <+: bs) (hc : c ∈ as.head?) :
    c ∈ bs.head? := by
  obtain ⟨rest, rfl⟩ := h
  cases as with
  | nil => exact absurd hc (by simp)
  | cons a as => exact hc

/-! ## Either end -/

theorem head_trimStart (cs : List Char) : ∀ c ∈ (trimStart cs).head?, isBlank c = false :=
  head?_dropWhile_eq_false isBlank cs

theorem trimEnd_eq_reverse (cs : List Char) : trimEnd cs = (trimStart cs.reverse).reverse := rfl

theorem last_trimEnd (cs : List Char) : ∀ c ∈ (trimEnd cs).getLast?, isBlank c = false := by
  rw [trimEnd_eq_reverse, List.getLast?_reverse]
  exact head_trimStart cs.reverse

theorem trimEnd_isPrefix (cs : List Char) : trimEnd cs <+: cs := by
  rw [trimEnd_eq_reverse, ← List.reverse_suffix, List.reverse_reverse]
  exact List.dropWhile_suffix _

/-- A text that ends with no blank keeps its end. -/
theorem trimEnd_eq_self_iff : trimEnd cs = cs ↔ ∀ c ∈ cs.getLast?, isBlank c = false := by
  rw [trimEnd_eq_reverse, ← List.head?_reverse, ← trimStart_eq_self_iff, List.reverse_eq_iff]

/-! ## Both ends -/

/-- What is left of a text that begins with no blank is a beginning of it. -/
theorem trim_isPrefix (h : ∀ c ∈ cs.head?, isBlank c = false) : trim cs <+: cs := by
  rw [trim, trimStart_eq_self_iff.mpr h]
  exact trimEnd_isPrefix cs

theorem mem_of_mem_trim (h : c ∈ trim cs) : c ∈ cs :=
  (List.dropWhile_sublist _).subset ((trimEnd_isPrefix _).subset h)

/-- **Trimming leaves no blank at either end.** -/
theorem trimmed_trim (cs : List Char) : Trimmed (trim cs) where
  head c hc := head_trimStart cs c (head?_of_isPrefix (trimEnd_isPrefix _) hc)
  last := last_trimEnd _

/-- **A text is left alone if and only if it has no blank at either end.** -/
theorem trim_eq_self_iff : trim cs = cs ↔ Trimmed cs := by
  refine ⟨fun h => h ▸ trimmed_trim cs, fun h => ?_⟩
  rw [trim, trimStart_eq_self_iff.mpr h.head, trimEnd_eq_self_iff.mpr h.last]

theorem trimmed_eq_self_iff {s : String} : trimmed s = s ↔ Trimmed s.toList := by
  rw [trimmed, ← trim_eq_self_iff, ← String.toList_inj, String.toList_ofList]

/-- Where two texts without blanks around them stand at the ends, there are none around the whole. -/
theorem Trimmed.append {as bs : List Char} (ha : Trimmed as) (hb : Trimmed bs) (hane : as ≠ [])
    (hbne : bs ≠ []) (mid : List Char) : Trimmed (as ++ mid ++ bs) where
  head c hc := by
    cases as with
    | nil => exact absurd rfl hane
    | cons a as => exact ha.head c hc
  last c hc := by
    refine hb.last c ?_
    rw [List.getLast?_append, List.getLast?_eq_some_getLast hbne, Option.some_or] at hc
    rwa [List.getLast?_eq_some_getLast hbne]

/-! ## Blanks around a text -/

theorem trim_cons_of_isBlank (h : isBlank c = true) (cs : List Char) : trim (c :: cs) = trim cs := by
  rw [trim, trimStart, List.dropWhile_cons_of_pos h]
  rfl

theorem trimEnd_append_of_isBlank (h : isBlank c = true) (cs : List Char) :
    trimEnd (cs ++ [c]) = trimEnd cs := by
  rw [trimEnd, List.reverse_append, List.reverse_singleton, List.singleton_append,
    List.dropWhile_cons_of_pos h]
  rfl

theorem trim_append_of_isBlank (h : isBlank c = true) (cs : List Char) :
    trim (cs ++ [c]) = trim cs := by
  have hc : [c].dropWhile isBlank = [] := by rw [List.dropWhile_cons_of_pos h]; rfl
  rw [trim, trimStart, List.dropWhile_append, hc]
  split
  · next hempty =>
    rw [List.isEmpty_iff] at hempty
    rw [trim, trimStart, hempty]
  · exact trimEnd_append_of_isBlank h _

/-! ## Blanks and nothing else -/

/-- The text consists of blanks. -/
def AllBlank (ws : List Char) : Prop := ∀ c ∈ ws, isBlank c = true

instance (ws : List Char) : Decidable (AllBlank ws) :=
  decidable_of_iff (ws.all isBlank = true) List.all_eq_true

variable {ws : List Char}

theorem allBlank_nil : AllBlank [] := List.forall_mem_nil _

theorem AllBlank.notMem (h : AllBlank ws) (hc : isBlank c = false) : c ∉ ws := by
  intro hmem
  rw [h c hmem] at hc
  exact Bool.noConfusion hc

theorem trimStart_append_of_allBlank (h : AllBlank ws) (cs : List Char) :
    trimStart (ws ++ cs) = trimStart cs := List.dropWhile_append_of_pos h

theorem trim_append_of_allBlank (h : AllBlank ws) (cs : List Char) : trim (cs ++ ws) = trim cs := by
  induction ws generalizing cs with
  | nil => rw [List.append_nil]
  | cons w ws ih =>
    obtain ⟨hw, hws⟩ := List.forall_mem_cons.mp h
    rw [List.append_cons, ih hws, trim_append_of_isBlank hw]

theorem trim_allBlank_append (h : AllBlank ws) (cs : List Char) : trim (ws ++ cs) = trim cs := by
  rw [trim, trimStart_append_of_allBlank h]
  rfl

/-- Blanks are taken off no further than up to a character that is none. -/
theorem trimEnd_append_cons (hc : isBlank c = false) (as bs : List Char) :
    trimEnd (as ++ c :: bs) = as ++ c :: trimEnd bs := by
  have hstart : [c].dropWhile isBlank = [c] := List.dropWhile_cons_of_neg (by simp [hc])
  rw [trimEnd, trimEnd, List.reverse_append, List.reverse_cons, List.append_assoc, List.dropWhile_append]
  split
  · next hempty =>
    rw [List.isEmpty_iff.mp hempty, List.singleton_append, List.dropWhile_cons_of_neg (by simp [hc])]
    simp
  · simp

/-- A text that begins with blanks loses these, and others at its end only. -/
theorem trim_allBlank_append_cons (h : AllBlank ws) (hc : isBlank c = false) (cs : List Char) :
    trim (ws ++ c :: cs) = c :: trimEnd cs := by
  rw [trim_allBlank_append h, trim, trimStart, List.dropWhile_cons_of_neg (by simp [hc])]
  exact trimEnd_append_cons hc [] cs

/-- What is taken off at the beginning is blank. -/
theorem exists_allBlank_trimStart (cs : List Char) : ∃ ws, AllBlank ws ∧ cs = ws ++ trimStart cs :=
  ⟨cs.takeWhile isBlank, List.all_eq_true.mp List.all_takeWhile, List.takeWhile_append_dropWhile.symm⟩

/-- What is taken off at the end is blank. -/
theorem exists_allBlank_trimEnd (cs : List Char) : ∃ ws, AllBlank ws ∧ cs = trimEnd cs ++ ws := by
  obtain ⟨ws, hws, hcs⟩ := exists_allBlank_trimStart cs.reverse
  refine ⟨ws.reverse, fun c hc => hws c (List.mem_reverse.mp hc), ?_⟩
  rw [trimEnd_eq_reverse, ← List.reverse_append, ← hcs, List.reverse_reverse]

/-- **Trimming undoes putting blanks around a text**, and nothing else. -/
theorem trim_eq_iff {t : List Char} :
    trim cs = t ↔ Trimmed t ∧ ∃ ws ws', AllBlank ws ∧ AllBlank ws' ∧ cs = ws ++ t ++ ws' := by
  constructor
  · rintro rfl
    obtain ⟨ws, hws, hcs⟩ := exists_allBlank_trimStart cs
    obtain ⟨ws', hws', hstart⟩ := exists_allBlank_trimEnd (trimStart cs)
    refine ⟨trimmed_trim cs, ws, ws', hws, hws', ?_⟩
    rw [List.append_assoc, trim, ← hstart]
    exact hcs
  · rintro ⟨ht, ws, ws', hws, hws', rfl⟩
    rw [trim_append_of_allBlank hws', trim_allBlank_append hws, trim_eq_self_iff.mpr ht]

/-! ## Parts without the blanks around them -/

variable {sep : Char}

theorem map_trim_split_cons (hc : isBlank c = true) (hsep : isBlank sep = false) (cs : List Char) :
    (split sep (c :: cs)).map trim = (split sep cs).map trim := by
  have hne : c ≠ sep := by
    rintro rfl
    exact Bool.noConfusion (hc.symm.trans hsep)
  obtain ⟨part, parts, hsplit, hcons⟩ := split_cons_of_ne hne cs
  rw [hcons, hsplit, List.map_cons, trim_cons_of_isBlank hc, List.map_cons]

theorem map_trim_split_concat (hc : isBlank c = true) (hsep : isBlank sep = false) (cs : List Char) :
    (split sep (cs ++ [c])).map trim = (split sep cs).map trim := by
  have hne : c ≠ sep := by
    rintro rfl
    exact Bool.noConfusion (hc.symm.trans hsep)
  obtain ⟨front, last, hsplit, hconcat⟩ := split_concat_of_ne hne cs
  rw [hconcat, hsplit, List.map_append, List.map_append, List.map_singleton, List.map_singleton,
    trim_append_of_isBlank hc]

theorem map_trim_split_allBlank_append (h : AllBlank ws) (hsep : isBlank sep = false)
    (cs : List Char) : (split sep (ws ++ cs)).map trim = (split sep cs).map trim := by
  induction ws with
  | nil => rfl
  | cons w ws ih =>
    obtain ⟨hw, hws⟩ := List.forall_mem_cons.mp h
    rw [List.cons_append, map_trim_split_cons hw hsep, ih hws]

theorem map_trim_split_append_allBlank (h : AllBlank ws) (hsep : isBlank sep = false)
    (cs : List Char) : (split sep (cs ++ ws)).map trim = (split sep cs).map trim := by
  induction ws generalizing cs with
  | nil => rw [List.append_nil]
  | cons w ws ih =>
    obtain ⟨hw, hws⟩ := List.forall_mem_cons.mp h
    rw [List.append_cons, ih hws, map_trim_split_concat hw hsep]

/-- **Blanks around a text are blanks around its parts**, and trimming these takes them off. -/
theorem map_trim_split_trim (hsep : isBlank sep = false) (cs : List Char) :
    (split sep (trim cs)).map trim = (split sep cs).map trim := by
  obtain ⟨_, ws, ws', hws, hws', hcs⟩ := trim_eq_iff.mp (rfl : trim cs = trim cs)
  have hwhole : (split sep cs).map trim = (split sep (ws ++ trim cs ++ ws')).map trim := by
    rw [← hcs]
  rw [hwhole, map_trim_split_append_allBlank hws' hsep, map_trim_split_allBlank_append hws hsep]

end FighterCheck.Text
