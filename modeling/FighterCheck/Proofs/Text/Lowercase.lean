import FighterCheck.Proofs.Text.Trim
import FighterCheck.Text.Lowercase

/-!
# Lowercasing twice is lowercasing once

What lowercasing puts in the place of a character (`lowered`) depends on what stands around it for the
capital sigma alone, and no capital sigma is ever put anywhere. So the result is a text of characters
that stand for themselves (`IsLower`), and those texts are exactly its fixed points
(`lower_eq_self_iff`).

That no lowercase has a lowercase of its own is a fact about the data, as is which characters are the
lowercase of another: each run of letters is held against every other once (`caseRuns_apart`) and
against the blanks (`caseRuns_clear_of_blanks`), and the rest is arithmetic of the runs. A character
that is the lowercase of none (`IsPlain`), such as a blank or a bracket, is in the result only if it
was in the text, and at an end of the one only if it was at that end of the other.
-/

namespace FighterCheck.Text

/-! ## Runs of letters -/

theorem CaseRun.covers_iff {r : CaseRun} {n : Nat} :
    r.covers n = true ↔ r.first ≤ n ∧ n ≤ r.last ∧ (n - r.first) % r.step = 0 := by
  simp only [covers, Bool.and_eq_true, decide_eq_true_eq, beq_iff_eq, and_assoc]

/-- No lowercase of a letter in the run `r` is a letter of the run `q`: it lies outside of `q`, or
between two of its letters. -/
def CaseRun.apart (r q : CaseRun) : Bool :=
  r.target + (r.last - r.first) < q.first || q.last < r.target ||
    (q.step == 2 && (r.step == 2 || r.first == r.last) && r.target % 2 != q.first % 2)

theorem CaseRun.not_covers_lower {r q : CaseRun} (h : r.apart q = true) {n : Nat}
    (hn : r.covers n = true) : q.covers (r.lower n) = false := by
  rw [Bool.eq_false_iff]
  intro hq
  simp only [apart, Bool.or_eq_true, Bool.and_eq_true, decide_eq_true_eq, beq_iff_eq,
    bne_iff_ne] at h
  rw [covers_iff] at hn hq
  unfold lower at hq
  rcases h with (hbelow | habove) | ⟨⟨hq2, hr2 | hone⟩, hodd⟩
  · omega
  · omega
  · rw [hq2] at hq
    rw [hr2] at hn
    omega
  · rw [hq2] at hq
    omega

/-- No lowercase of the run is one of the code points from `first` to `last`. -/
def CaseRun.clearOf (r : CaseRun) (first last : Nat) : Bool :=
  r.target + (r.last - r.first) < first || last < r.target

theorem CaseRun.lower_of_clearOf {r : CaseRun} {first last : Nat} (h : r.clearOf first last = true)
    {n : Nat} (hn : r.covers n = true) : r.lower n < first ∨ last < r.lower n := by
  simp only [clearOf, Bool.or_eq_true, decide_eq_true_eq] at h
  rw [covers_iff] at hn
  unfold lower
  omega

/-- Lowercases are code points of characters, and none is that of the dotted capital `İ`. -/
def CaseRun.valid (r : CaseRun) : Bool :=
  r.clearOf 0xD800 0xDFFF && r.target + (r.last - r.first) < 0x110000 && r.clearOf 0x130 0x130

theorem caseRuns_apart : (caseRuns.all fun r => caseRuns.all r.apart) = true := by decide +kernel

theorem caseRuns_valid : caseRuns.all CaseRun.valid = true := by decide +kernel

theorem caseRuns_clear_of_blanks :
    (caseRuns.all fun r => blankRanges.all fun b => r.clearOf b.first b.last) = true := by
  decide +kernel

/-! ## Characters that stand for themselves -/

/-- The character is no capital: it is what lowercasing puts in its own place. -/
def IsLower (c : Char) : Prop := c ≠ 'Σ' ∧ lowerChar c = [c]

instance (c : Char) : Decidable (IsLower c) := inferInstanceAs (Decidable (_ ∧ _))

/-- A lowercase of a run is a character of its code point, and not the dotted capital `İ`. -/
theorem toNat_ofNat_lower {r : CaseRun} (hr : r ∈ caseRuns) {n : Nat} (hn : r.covers n = true) :
    (Char.ofNat (r.lower n)).toNat = r.lower n ∧ Char.ofNat (r.lower n) ≠ 'İ' := by
  have h := List.all_eq_true.mp caseRuns_valid r hr
  simp only [CaseRun.valid, Bool.and_eq_true, decide_eq_true_eq] at h
  obtain ⟨⟨hsurrogate, hlast⟩, hdot⟩ := h
  have hvalid : (r.lower n).isValidChar := by
    have hclear := CaseRun.lower_of_clearOf hsurrogate hn
    rw [CaseRun.covers_iff] at hn
    unfold CaseRun.lower at hclear ⊢
    unfold Nat.isValidChar
    omega
  have hnat : (Char.ofNat (r.lower n)).toNat = r.lower n := by
    rw [Char.ofNat, dif_pos hvalid]
    rfl
  refine ⟨hnat, fun h => ?_⟩
  have hne := CaseRun.lower_of_clearOf hdot hn
  rw [← hnat, h] at hne
  exact absurd hne (by decide)

/-- A character of no run is its own lowercase. -/
theorem lowerChar_of_forall_not_covers {c : Char} (hdot : c ≠ 'İ')
    (h : ∀ r ∈ caseRuns, r.covers c.toNat = false) : lowerChar c = [c] := by
  have hnone : caseRuns.find? (·.covers c.toNat) = none := by
    rw [List.find?_eq_none]
    intro r hr
    rw [h r hr]
    exact Bool.false_ne_true
  rw [lowerChar, if_neg hdot, hnone]

/-- **No lowercase is a capital.** -/
theorem isLower_ofNat_lower {r : CaseRun} (hr : r ∈ caseRuns) {n : Nat} (hn : r.covers n = true) :
    IsLower (Char.ofNat (r.lower n)) := by
  obtain ⟨hnat, hdot⟩ := toNat_ofNat_lower hr hn
  have hnot : ∀ q ∈ caseRuns, q.covers (Char.ofNat (r.lower n)).toNat = false := by
    intro q hq
    rw [hnat]
    exact CaseRun.not_covers_lower
      (List.all_eq_true.mp (List.all_eq_true.mp caseRuns_apart r hr) q hq) hn
  refine ⟨fun hsigma => ?_, lowerChar_of_forall_not_covers hdot hnot⟩
  -- the capital sigma belongs to a run
  rw [hsigma] at hnot
  exact absurd hnot (by decide)

/-- What lowercasing can put in the place of a character. -/
def lowered (c : Char) : List Char := if c = 'Σ' then ['σ', 'ς'] else lowerChar c

/-- What lowercasing puts in the place of a character is a lowercase of another or the character. -/
theorem mem_lowered_cases {c x : Char} (h : x ∈ lowered c) :
    x ∈ ['σ', 'ς', 'i', '\u0307'] ∨
      (∃ r ∈ caseRuns, r.covers c.toNat = true ∧ x = Char.ofNat (r.lower c.toNat)) ∨
      (x = c ∧ IsLower c) := by
  unfold lowered at h
  split at h
  · exact Or.inl (List.mem_append_left ['i', '\u0307'] h)
  · next hsigma =>
    have hx := h
    unfold lowerChar at h
    split at h
    · exact Or.inl (List.mem_append_right ['σ', 'ς'] h)
    · next hdot =>
      split at h
      · next r hr =>
        refine Or.inr (Or.inl ⟨r, List.mem_of_find?_eq_some hr, ?_, List.mem_singleton.mp h⟩)
        simpa using List.find?_some hr
      · next hnone =>
        have hself : lowerChar c = [c] := by rw [lowerChar, if_neg hdot, hnone]
        exact Or.inr (Or.inr ⟨List.mem_singleton.mp h, hsigma, hself⟩)

theorem isLower_of_mem_lowered {c x : Char} (h : x ∈ lowered c) : IsLower x := by
  rcases mem_lowered_cases h with hx | ⟨r, hr, hn, rfl⟩ | ⟨rfl, hc⟩
  · have hall : (['σ', 'ς', 'i', '\u0307'].all fun y => decide (IsLower y)) = true := by decide
    exact of_decide_eq_true (List.all_eq_true.mp hall x hx)
  · exact isLower_ofNat_lower hr hn
  · exact hc

/-! ## The lowercase of a text -/

theorem lowerAfter_cons (before : List Char) (c : Char) (cs : List Char) :
    ∃ piece, piece ≠ [] ∧ (∀ x ∈ piece, x ∈ lowered c) ∧
      lowerAfter before (c :: cs) = piece ++ lowerAfter (c :: before) cs := by
  rw [lowerAfter]
  by_cases hsigma : c = 'Σ'
  · refine ⟨[lowerSigma before cs], List.cons_ne_nil _ _, fun x hx => ?_, by rw [if_pos hsigma]⟩
    rw [List.mem_singleton.mp hx, lowered, if_pos hsigma, lowerSigma]
    split <;> decide
  · refine ⟨lowerChar c, ?_, fun _ hx => by rwa [lowered, if_neg hsigma], by rw [if_neg hsigma]⟩
    unfold lowerChar
    split
    · exact List.cons_ne_nil _ _
    · split <;> exact List.cons_ne_nil _ _

theorem mem_lowerAfter {before cs : List Char} {x : Char} (hx : x ∈ lowerAfter before cs) :
    ∃ c ∈ cs, x ∈ lowered c := by
  induction cs generalizing before with
  | nil => exact absurd hx List.not_mem_nil
  | cons c cs ih =>
    obtain ⟨piece, _, hpiece, heq⟩ := lowerAfter_cons before c cs
    rw [heq] at hx
    rcases List.mem_append.mp hx with hx | hx
    · exact ⟨c, List.mem_cons_self, hpiece x hx⟩
    · obtain ⟨d, hd, hxd⟩ := ih hx
      exact ⟨d, List.mem_cons_of_mem c hd, hxd⟩

theorem isLower_of_mem_lower {cs : List Char} {x : Char} (hx : x ∈ lower cs) : IsLower x := by
  obtain ⟨c, _, hxc⟩ := mem_lowerAfter hx
  exact isLower_of_mem_lowered hxc

theorem lowerAfter_eq_self {before cs : List Char} (h : ∀ x ∈ cs, IsLower x) :
    lowerAfter before cs = cs := by
  induction cs generalizing before with
  | nil => rfl
  | cons c cs ih =>
    obtain ⟨hsigma, hself⟩ := h c List.mem_cons_self
    rw [lowerAfter, if_neg hsigma, hself, ih fun x hx => h x (List.mem_cons_of_mem c hx)]
    rfl

/-- **A text is its own lowercase if and only if each of its characters is.** -/
theorem lower_eq_self_iff {cs : List Char} : lower cs = cs ↔ ∀ x ∈ cs, IsLower x :=
  ⟨fun h _ hx => isLower_of_mem_lower (h.symm ▸ hx), lowerAfter_eq_self⟩

/-- **Lowercasing twice is lowercasing once.** -/
theorem lower_lower (cs : List Char) : lower (lower cs) = lower cs :=
  lower_eq_self_iff.mpr fun _ hx => isLower_of_mem_lower hx

theorem lowercase_eq_self_iff {s : String} : lowercase s = s ↔ lower s.toList = s.toList := by
  rw [lowercase, ← String.toList_inj, String.toList_ofList]

theorem lowerAfter_eq_nil_iff {before cs : List Char} : lowerAfter before cs = [] ↔ cs = [] := by
  cases cs with
  | nil => exact iff_of_true rfl rfl
  | cons c cs =>
    obtain ⟨piece, hne, _, heq⟩ := lowerAfter_cons before c cs
    refine iff_of_false (fun h => hne ?_) (List.cons_ne_nil _ _)
    rw [heq] at h
    exact (List.append_eq_nil_iff.mp h).1

/-! ## What lowercasing does not bring in -/

/-- The character is the lowercase of no other. -/
def IsPlain (x : Char) : Prop := ∀ c, x ∈ lowered c → c = x

/-- A character that no run has for a lowercase, and no rule besides, is the lowercase of no other. -/
theorem isPlain_of_clearOf {x : Char} (hx : x ∉ ['σ', 'ς', 'i', '\u0307'])
    (h : ∀ r ∈ caseRuns, ∃ first last, first ≤ x.toNat ∧ x.toNat ≤ last ∧
      r.clearOf first last = true) : IsPlain x := by
  intro c hc
  rcases mem_lowered_cases hc with hrule | ⟨r, hr, hn, rfl⟩ | ⟨hself, _⟩
  · exact absurd hrule hx
  · obtain ⟨first, last, hfirst, hlast, hclear⟩ := h r hr
    have hne := CaseRun.lower_of_clearOf hclear hn
    rw [(toNat_ofNat_lower hr hn).1] at hfirst hlast
    omega
  · exact hself.symm

/-- **A blank is the lowercase of no other character.** -/
theorem isPlain_of_isBlank {x : Char} (hx : isBlank x = true) : IsPlain x := by
  refine isPlain_of_clearOf (fun hrule => ?_) fun r hr => ?_
  · have hall : (['σ', 'ς', 'i', '\u0307'].all fun y => !isBlank y) = true := by decide
    have hnot := List.all_eq_true.mp hall x hrule
    rw [hx] at hnot
    exact Bool.noConfusion hnot
  · obtain ⟨b, hb, hfirst, hlast⟩ := inRanges_iff.mp hx
    exact ⟨b.first, b.last, hfirst, hlast,
      List.all_eq_true.mp (List.all_eq_true.mp caseRuns_clear_of_blanks r hr) b hb⟩

theorem isPlain_of_mem_signs {x : Char} (hx : x ∈ ['[', ']', '=', ';']) : IsPlain x := by
  have hall : (['[', ']', '=', ';'].all fun y => !(['σ', 'ς', 'i', '\u0307'].contains y) &&
      caseRuns.all fun r => r.clearOf y.toNat y.toNat) = true := by decide +kernel
  have hboth := List.all_eq_true.mp hall x hx
  rw [Bool.and_eq_true, Bool.not_eq_true', ← Bool.not_eq_true, List.contains_iff_mem] at hboth
  obtain ⟨hrule, hruns⟩ := hboth
  refine isPlain_of_clearOf hrule fun r hr => ?_
  exact ⟨x.toNat, x.toNat, Nat.le_refl _, Nat.le_refl _, List.all_eq_true.mp hruns r hr⟩

/-- A plain character of the lowercase is one of the text. -/
theorem mem_of_mem_lower {cs : List Char} {x : Char} (hplain : IsPlain x) (hx : x ∈ lower cs) :
    x ∈ cs := by
  obtain ⟨c, hc, hxc⟩ := mem_lowerAfter hx
  exact hplain c hxc ▸ hc

theorem head?_lower {cs : List Char} {x : Char} (hplain : IsPlain x) (hx : x ∈ (lower cs).head?) :
    x ∈ cs.head? := by
  cases cs with
  | nil => exact absurd hx (by simp)
  | cons c cs =>
    obtain ⟨piece, hne, hpiece, heq⟩ := lowerAfter_cons [] c cs
    have hmem : x ∈ piece := by
      cases piece with
      | nil => exact absurd rfl hne
      | cons y ys =>
        rw [lower, heq] at hx
        exact List.mem_of_head? hx
    rw [hplain c (hpiece x hmem)]
    rfl

theorem getLast?_lowerAfter {before cs : List Char} {x : Char} (hplain : IsPlain x)
    (hx : x ∈ (lowerAfter before cs).getLast?) : x ∈ cs.getLast? := by
  induction cs generalizing before with
  | nil => exact absurd hx (by simp [lowerAfter])
  | cons c cs ih =>
    obtain ⟨piece, hne, hpiece, heq⟩ := lowerAfter_cons before c cs
    rw [heq, List.getLast?_append] at hx
    cases cs with
    | nil =>
      rw [lowerAfter, List.getLast?_nil, Option.none_or] at hx
      rw [hplain c (hpiece x (List.mem_of_getLast? hx))]
      rfl
    | cons d ds =>
      have hrest : x ∈ (lowerAfter (c :: before) (d :: ds)).getLast? := by
        cases hlast : (lowerAfter (c :: before) (d :: ds)).getLast? with
        | some y => rwa [hlast, Option.some_or] at hx
        | none =>
          rw [List.getLast?_eq_none_iff, lowerAfter_eq_nil_iff] at hlast
          exact absurd hlast (List.cons_ne_nil d ds)
      rw [List.getLast?_cons_cons]
      exact ih hrest

theorem getLast?_lower {cs : List Char} {x : Char} (hplain : IsPlain x)
    (hx : x ∈ (lower cs).getLast?) : x ∈ cs.getLast? := getLast?_lowerAfter hplain hx

/-- The lowercase of a text without blanks around it has none either. -/
theorem Trimmed.lower {cs : List Char} (h : Trimmed cs) : Trimmed (lower cs) where
  head c hc := by
    refine Bool.eq_false_iff.mpr fun hblank => ?_
    have := h.head c (head?_lower (isPlain_of_isBlank hblank) hc)
    exact Bool.noConfusion (this.symm.trans hblank)
  last c hc := by
    refine Bool.eq_false_iff.mpr fun hblank => ?_
    have := h.last c (getLast?_lower (isPlain_of_isBlank hblank) hc)
    exact Bool.noConfusion (this.symm.trans hblank)

end FighterCheck.Text
