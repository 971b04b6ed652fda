import FighterCheck.Text.Lines

/-!
# Lines and their ends

A line holds no line feed (`newline_notMem_of_mem_lines`). Conversely, texts without a line feed, none
of them ending with a carriage return, can be written one after another with a line feed behind each,
and are read back as the lines of the whole (`lines_flatMap_newline`). Where a text can be parted at the
end of a line, its lines are those of the one part and those of the other (`lines_append`).
-/

namespace FighterCheck.Text

/-- A character that ends no line belongs to the line that follows it. -/
theorem lines_cons {c : Char} {cs : List Char} (hn : c ≠ '\n')
    (hr : c = '\r' → ∀ ds, cs ≠ '\n' :: ds) :
    lines (c :: cs) = (c :: (lines cs).headD []) :: (lines cs).tail := by
  rw [lines]
  · cases lines cs <;> rfl
  · exact hn
  · exact fun ds hc hcs => hr hc ds hcs

theorem newline_notMem_of_mem_lines {cs l : List Char} (hl : l ∈ lines cs) : '\n' ∉ l := by
  fun_induction lines cs generalizing l with
  | case1 => exact absurd hl List.not_mem_nil
  | case2 cs ih =>
    rcases List.mem_cons.mp hl with rfl | hl
    · exact List.not_mem_nil
    · exact ih hl
  | case3 cs ih =>
    rcases List.mem_cons.mp hl with rfl | hl
    · exact List.not_mem_nil
    · exact ih hl
  | case4 c cs hn _ hlines ih =>
    rw [List.mem_singleton.mp hl]
    exact fun h => hn (List.mem_singleton.mp h).symm
  | case5 c cs hn _ first rest hlines ih =>
    rw [hlines] at ih
    rcases List.mem_cons.mp hl with rfl | hl
    · intro h
      rcases List.mem_cons.mp h with h | h
      · exact hn h.symm
      · exact ih List.mem_cons_self h
    · exact ih (List.mem_cons_of_mem first hl)

/-- Characters that end no line belong to the line that follows them. -/
theorem lines_append_of_notMem {l rest : List Char} (hne : l ≠ []) (hn : '\n' ∉ l)
    (hr : l.getLast? = some '\r' → rest.head? ≠ some '\n') :
    lines (l ++ rest) = (l ++ (lines rest).headD []) :: (lines rest).tail := by
  induction l with
  | nil => exact absurd rfl hne
  | cons c l ih =>
    have hc : c ≠ '\n' := fun h => hn (h ▸ List.mem_cons_self)
    have hl : '\n' ∉ l := fun h => hn (List.mem_cons_of_mem c h)
    cases l with
    | nil =>
      refine lines_cons hc fun hreturn ds hrest => hr (congrArg some hreturn) ?_
      rw [show rest = '\n' :: ds from hrest]
      rfl
    | cons d l =>
      have hrest : ∀ ds, d :: l ++ rest ≠ '\n' :: ds := fun ds h =>
        hl ((List.cons.inj h).1 ▸ List.mem_cons_self)
      rw [List.cons_append, lines_cons hc fun _ => hrest,
        ih (List.cons_ne_nil d l) hl (List.getLast?_cons_cons ▸ hr)]
      rfl

/-- A text without a line feed is one line, unless it is empty. -/
theorem lines_eq_singleton {l : List Char} (hne : l ≠ []) (hn : '\n' ∉ l) : lines l = [l] := by
  have h : lines (l ++ []) = _ := lines_append_of_notMem hne hn fun _ => nofun
  rwa [List.append_nil, lines_nil, List.headD_nil, List.append_nil, List.tail_nil] at h

/-- **A line feed ends the line before it**, if that does not end with a carriage return. -/
theorem lines_append_newline {l : List Char} (hn : '\n' ∉ l) (hr : l.getLast? ≠ some '\r')
    (cs : List Char) : lines (l ++ '\n' :: cs) = l :: lines cs := by
  cases l with
  | nil => exact lines_newline_cons cs
  | cons c l =>
    rw [lines_append_of_notMem (List.cons_ne_nil c l) hn fun h => absurd h hr, lines_newline_cons,
      List.headD_cons, List.append_nil, List.tail_cons]

/-- **A carriage return and a line feed end the line before them.** -/
theorem lines_append_return_newline {l : List Char} (hn : '\n' ∉ l) (cs : List Char) :
    lines (l ++ '\r' :: '\n' :: cs) = l :: lines cs := by
  cases l with
  | nil => exact lines_return_newline_cons cs
  | cons c l =>
    rw [lines_append_of_notMem (List.cons_ne_nil c l) hn fun _ => by simp,
      lines_return_newline_cons, List.headD_cons, List.append_nil, List.tail_cons]

theorem lines_eq_nil_iff {cs : List Char} : lines cs = [] ↔ cs = [] := by
  refine ⟨fun h => ?_, fun h => h ▸ lines_nil⟩
  unfold lines at h
  split at h
  · rfl
  · exact absurd h (List.cons_ne_nil _ _)
  · exact absurd h (List.cons_ne_nil _ _)
  · split at h <;> exact absurd h (List.cons_ne_nil _ _)

/-- The text is empty, or its last line has an end. -/
def EndsLine (cs : List Char) : Prop := ∀ c ∈ cs.getLast?, c = '\n'

instance (cs : List Char) : Decidable (EndsLine cs) :=
  decidable_of_iff (cs.getLast?.all (· = '\n') = true)
    (by simp only [EndsLine, Option.all_eq_true, Option.mem_def, decide_eq_true_eq])

theorem EndsLine.of_cons {c : Char} {cs : List Char} (h : EndsLine (c :: cs)) : EndsLine cs := by
  cases cs with
  | nil => exact fun c hc => nomatch hc
  | cons d ds => exact h

/-- **A text has the lines of its parts**, if the first of them does not break off in a line. -/
theorem lines_append {as : List Char} (h : EndsLine as) (bs : List Char) :
    lines (as ++ bs) = lines as ++ lines bs := by
  fun_induction lines as with
  | case1 => rfl
  | case2 cs ih => rw [List.cons_append, lines_newline_cons, ih h.of_cons, List.cons_append]
  | case3 cs ih =>
    rw [List.cons_append, List.cons_append, lines_return_newline_cons, ih h.of_cons.of_cons,
      List.cons_append]
  | case4 c cs hn _ hlines ih =>
    -- the text would break off behind this character
    obtain rfl := lines_eq_nil_iff.mp hlines
    exact absurd (h c rfl) hn
  | case5 c cs hn hr first rest hlines ih =>
    have hreturn : c = '\r' → ∀ ds, cs ++ bs ≠ '\n' :: ds := by
      intro hc ds hcs
      cases cs with
      | nil => exact absurd hlines (by simp)
      | cons d cs => exact hr cs hc (by rw [(List.cons.inj hcs).1])
    rw [List.cons_append, lines_cons hn hreturn, ih h.of_cons, hlines]
    rfl

/-- **Lines written one after another are read back.** -/
theorem lines_flatMap_newline {ls : List (List Char)}
    (h : ∀ l ∈ ls, '\n' ∉ l ∧ l.getLast? ≠ some '\r') :
    lines (ls.flatMap (· ++ ['\n'])) = ls := by
  induction ls with
  | nil => exact lines_nil
  | cons l ls ih =>
    obtain ⟨hn, hr⟩ := h l List.mem_cons_self
    rw [List.flatMap_cons, List.append_assoc, List.singleton_append, lines_append_newline hn hr,
      ih fun l hl => h l (List.mem_cons_of_mem _ hl)]

end FighterCheck.Text
