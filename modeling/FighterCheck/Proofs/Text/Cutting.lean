import FighterCheck.Text.Cut

/-!
# Texts put together and cut again

A stretch of characters of some kind ends where one of another kind follows or nothing does, so it is found
again in a text that was put together in this way. Likewise where a separator stands between two texts: the
parts of the whole are those of the one and those of the other (`split_append`), and a text without a
separator is its own only part.
-/

namespace FighterCheck.Text

section Stretches

variable {p : Char → Bool} {cs rest : List Char}

theorem takeWhile_append_of_breaks (hcs : cs.all p) (hrest : ∀ c ∈ rest.head?, p c = false) :
    (cs ++ rest).takeWhile p = cs := by
  rw [List.takeWhile_append_of_pos (List.all_eq_true.mp hcs)]
  cases rest with
  | nil => rw [List.takeWhile_nil, List.append_nil]
  | cons c rest => rw [List.takeWhile_cons_of_neg (by simp [hrest c rfl]), List.append_nil]

theorem dropWhile_append_of_breaks (hcs : cs.all p) (hrest : ∀ c ∈ rest.head?, p c = false) :
    (cs ++ rest).dropWhile p = rest := by
  rw [List.dropWhile_append_of_pos (List.all_eq_true.mp hcs)]
  cases rest with
  | nil => rfl
  | cons c rest => rw [List.dropWhile_cons_of_neg (by simp [hrest c rfl])]

/-- What follows a stretch is of another kind. -/
theorem head?_dropWhile_eq_false (p : Char → Bool) (cs : List Char) :
    ∀ c ∈ (cs.dropWhile p).head?, p c = false := by
  intro c hc
  have h := List.head?_dropWhile_not p cs
  rw [Option.mem_def.mp hc] at h
  exact h

/-- Every character is another than `a` if and only if `a` is none of them. -/
theorem all_ne_iff {a : Char} : cs.all (fun c => decide (c ≠ a)) = true ↔ a ∉ cs := by
  rw [List.all_eq_true]
  constructor
  · exact fun h ha => of_decide_eq_true (h a ha) rfl
  · exact fun h c hc => decide_eq_true fun heq => h (heq ▸ hc)

end Stretches

variable {sep : Char}

theorem split_cons_of_ne {c : Char} (h : c ≠ sep) (cs : List Char) :
    ∃ part parts, split sep cs = part :: parts ∧ split sep (c :: cs) = (c :: part) :: parts := by
  cases hsplit : split sep cs with
  | nil => exact absurd hsplit (split_ne_nil sep cs)
  | cons part parts => exact ⟨part, parts, rfl, by rw [split, if_neg h, hsplit]⟩

/-- Cutting loses the separators and nothing else. -/
theorem flatten_split (sep : Char) (cs : List Char) :
    (split sep cs).flatten = cs.filter fun c => decide (c ≠ sep) := by
  induction cs with
  | nil => rfl
  | cons c cs ih =>
    by_cases hc : c = sep
    · rw [split, if_pos hc, List.flatten_cons, List.nil_append, ih,
        List.filter_cons_of_neg (by simpa using hc)]
    · obtain ⟨part, parts, hcs, hcons⟩ := split_cons_of_ne hc cs
      rw [hcs, List.flatten_cons] at ih
      rw [hcons, List.filter_cons_of_pos (by simpa using hc), ← ih]
      rfl

/-- The parts of two texts with a separator between them are those of the one and those of the
other. -/
theorem split_append (sep : Char) (as bs : List Char) :
    split sep (as ++ sep :: bs) = split sep as ++ split sep bs := by
  induction as with
  | nil => exact if_pos rfl
  | cons a as ih =>
    by_cases ha : a = sep
    · rw [List.cons_append, split, if_pos ha, ih, split, if_pos ha, List.cons_append]
    · obtain ⟨part, parts, has, hcons⟩ := split_cons_of_ne ha as
      rw [List.cons_append, split, if_neg ha, ih, hcons, has, List.cons_append, List.cons_append]

/-- A text without a separator is its own only part. -/
theorem split_eq_singleton {cs : List Char} (h : sep ∉ cs) : split sep cs = [cs] := by
  induction cs with
  | nil => rfl
  | cons c cs ih =>
    rw [List.mem_cons, not_or] at h
    obtain ⟨hc, hcs⟩ := h
    rw [split, if_neg (Ne.symm hc), ih hcs]

/-- **The first part of a text** ends where the text does or where the first separator stands. -/
theorem split_eq_cons_iff {cs part : List Char} {parts : List (List Char)} :
    split sep cs = part :: parts ↔ sep ∉ part ∧ ((cs = part ∧ parts = []) ∨
      ∃ rest, cs = part ++ sep :: rest ∧ split sep rest = parts) := by
  constructor
  · intro h
    induction cs generalizing part with
    | nil =>
      obtain ⟨rfl, rfl⟩ := List.cons.inj h
      exact ⟨List.not_mem_nil, Or.inl ⟨rfl, rfl⟩⟩
    | cons c cs ih =>
      by_cases hc : c = sep
      · rw [split, if_pos hc] at h
        obtain ⟨rfl, rfl⟩ := List.cons.inj h
        exact ⟨List.not_mem_nil, Or.inr ⟨cs, by rw [hc, List.nil_append], rfl⟩⟩
      · obtain ⟨first, more, hsplit, hcons⟩ := split_cons_of_ne hc cs
        rw [hcons] at h
        obtain ⟨rfl, rfl⟩ := List.cons.inj h
        obtain ⟨hfirst, hrest⟩ := ih hsplit
        refine ⟨fun hmem => ?_, ?_⟩
        · rcases List.mem_cons.mp hmem with rfl | hmem
          · exact hc rfl
          · exact hfirst hmem
        · rcases hrest with ⟨rfl, rfl⟩ | ⟨rest, rfl, rfl⟩
          · exact Or.inl ⟨rfl, rfl⟩
          · exact Or.inr ⟨rest, rfl, rfl⟩
  · rintro ⟨hpart, ⟨rfl, rfl⟩ | ⟨rest, rfl, rfl⟩⟩
    · exact split_eq_singleton hpart
    · rw [split_append, split_eq_singleton hpart, List.singleton_append]

/-- A character behind a text belongs to its last part, unless it is a separator. -/
theorem split_concat_of_ne {c : Char} (h : c ≠ sep) (cs : List Char) :
    ∃ front last, split sep cs = front ++ [last] ∧ split sep (cs ++ [c]) = front ++ [last ++ [c]] := by
  induction cs with
  | nil => exact ⟨[], [], rfl, by rw [List.nil_append, split, if_neg h, split_nil]; rfl⟩
  | cons d cs ih =>
    obtain ⟨front, last, hcs, hconcat⟩ := ih
    rw [List.cons_append, split, split, hcs, hconcat]
    by_cases hd : d = sep
    · rw [if_pos hd, if_pos hd]
      exact ⟨[] :: front, last, rfl, rfl⟩
    · rw [if_neg hd, if_neg hd]
      cases front with
      | nil => exact ⟨[], d :: last, rfl, rfl⟩
      | cons first front => exact ⟨(d :: first) :: front, last, rfl, rfl⟩

end FighterCheck.Text
