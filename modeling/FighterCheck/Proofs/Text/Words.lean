import FighterCheck.Proofs.Text.Trim

/-!
# The words of a text

A text is taken for a list of words, with one or more blanks between any two of them and any number around
them all (`Spaced`). There is exactly one such list for every text, and splitting the text at its blanks
finds it: `words_eq_iff` ties `words` to the relation in both directions.
-/

namespace FighterCheck.Text

/-- A text without blanks that is not empty. -/
structure IsWord (w : List Char) : Prop where
  /-- there is a character -/
  ne_nil : w ≠ []
  /-- none is a blank -/
  isBlank : ∀ c ∈ w, isBlank c = false

/-- The text consists of these words in order, and of blanks between and around them. -/
inductive Spaced : List (List Char) → List Char → Prop where
  /-- no words -/
  | nil {gap : List Char} (hgap : AllBlank gap) : Spaced [] gap
  /-- a word after some blanks or none, and words that blanks part from it -/
  | cons {gap w rest : List Char} {ws : List (List Char)} (hgap : AllBlank gap) (hw : IsWord w)
    (hbreak : ∀ c ∈ rest.head?, isBlank c = true) (hrest : Spaced ws rest) :
    Spaced (w :: ws) (gap ++ (w ++ rest))

variable {c d : Char} {cs gap rest w : List Char} {ws : List (List Char)}

/-! ## One word -/

theorem IsWord.trimmed (hw : IsWord w) : Trimmed w where
  head c hc := hw.isBlank c (List.mem_of_head? hc)
  last c hc := hw.isBlank c (List.mem_of_getLast? hc)

/-- A word of one character. -/
theorem words_cons_of_breaks (hc : isBlank c = false) (hbreak : ∀ d ∈ rest.head?, isBlank d = true) :
    words (c :: rest) = [c] :: words rest := by
  cases rest with
  | nil => simp [words, hc]
  | cons d rest => rw [words, hc, if_neg Bool.false_ne_true, if_pos (hbreak d rfl)]

/-- A character in front of a word belongs to it. -/
theorem words_cons_of_words (hc : isBlank c = false) (hd : isBlank d = false)
    (h : words (d :: cs) = w :: ws) : words (c :: d :: cs) = (c :: w) :: ws := by
  rw [words, hc, if_neg Bool.false_ne_true, hd, if_neg Bool.false_ne_true, h]

/-- **A word ends where a blank follows it or nothing does.** -/
theorem words_append (hw : IsWord w) (hbreak : ∀ c ∈ rest.head?, isBlank c = true) :
    words (w ++ rest) = w :: words rest := by
  obtain ⟨hne, hsolid⟩ := hw
  induction w with
  | nil => exact absurd rfl hne
  | cons c w ih =>
    obtain ⟨hc, hw⟩ := List.forall_mem_cons.mp hsolid
    cases w with
    | nil => exact words_cons_of_breaks hc hbreak
    | cons d w =>
      exact words_cons_of_words hc (hw d List.mem_cons_self) (ih (List.cons_ne_nil d w) hw)

theorem words_append_of_allBlank (hgap : AllBlank gap) (cs : List Char) :
    words (gap ++ cs) = words cs := by
  induction gap with
  | nil => rfl
  | cons c gap ih =>
    obtain ⟨hc, hgap⟩ := List.forall_mem_cons.mp hgap
    rw [List.cons_append, words_blank_cons hc, ih hgap]

/-! ## The whole text -/

namespace Spaced

theorem isWord (h : Spaced ws cs) : ∀ w ∈ ws, IsWord w := by
  induction h with
  | nil => exact fun w hw => absurd hw List.not_mem_nil
  | cons _ hw _ _ ih => exact List.forall_mem_cons.mpr ⟨hw, ih⟩

theorem words_eq (h : Spaced ws cs) : words cs = ws := by
  induction h with
  | @nil gap hgap => rw [← List.append_nil gap, words_append_of_allBlank hgap, words_nil]
  | cons hgap hw hbreak _ ih => rw [words_append_of_allBlank hgap, words_append hw hbreak, ih]

theorem cons_of_isBlank (hc : isBlank c = true) (h : Spaced ws cs) : Spaced ws (c :: cs) := by
  cases h with
  | nil hgap => exact .nil (List.forall_mem_cons.mpr ⟨hc, hgap⟩)
  | cons hgap hw hbreak hrest =>
    exact .cons (List.forall_mem_cons.mpr ⟨hc, hgap⟩) hw hbreak hrest

/-- A character in front of one that is no blank belongs to the first word, and there is one. -/
theorem cons_of_not_isBlank (hc : isBlank c = false) (hd : isBlank d = false)
    (h : Spaced ws (d :: cs)) : ∃ v vs, ws = v :: vs ∧ Spaced ((c :: v) :: vs) (c :: d :: cs) := by
  generalize hds : d :: cs = ds at h
  cases h with
  | nil hgap => exact absurd (hds ▸ List.mem_cons_self) (hgap.notMem hd)
  | @cons gap v rest vs hgap hv hbreak hrest =>
    -- the text begins with no blank, so there are none before the word
    cases gap with
    | cons e gap =>
      obtain ⟨rfl, _⟩ := List.cons.inj hds
      exact absurd List.mem_cons_self (hgap.notMem hd)
    | nil =>
      have hword : IsWord (c :: v) :=
        ⟨List.cons_ne_nil c v, List.forall_mem_cons.mpr ⟨hc, hv.isBlank⟩⟩
      exact ⟨v, vs, rfl, .cons hgap hword hbreak hrest⟩

end Spaced

theorem spaced_words (cs : List Char) : Spaced (words cs) cs := by
  induction cs with
  | nil => exact .nil allBlank_nil
  | cons c cs ih =>
    cases hc : isBlank c with
    | true => exact words_blank_cons hc cs ▸ ih.cons_of_isBlank hc
    | false =>
      by_cases hbreak : ∀ d ∈ cs.head?, isBlank d = true
      · rw [words_cons_of_breaks hc hbreak]
        exact .cons allBlank_nil ⟨List.cons_ne_nil c [], List.forall_mem_singleton.mpr hc⟩ hbreak ih
      · cases cs with
        | nil => exact absurd nofun hbreak
        | cons d cs =>
          have hd : isBlank d = false := by simpa using hbreak
          obtain ⟨v, vs, hwords, hspaced⟩ := ih.cons_of_not_isBlank hc hd
          rwa [words_cons_of_words hc hd hwords]

/-- **Splitting a text finds the one list of words that it consists of.** -/
theorem words_eq_iff : words cs = ws ↔ Spaced ws cs :=
  ⟨fun h => h ▸ spaced_words cs, Spaced.words_eq⟩

end FighterCheck.Text
