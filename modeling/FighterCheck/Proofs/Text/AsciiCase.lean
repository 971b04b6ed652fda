import FighterCheck.Proofs.Text.Lowercase
import FighterCheck.Text.AsciiCase

/-!
# ASCII case beside blanks and full lowercasing

Lowering `A` to `Z` alone neither makes a blank nor takes one away, so it can be done before a text is
trimmed or after (`trimmed_asciiFold`), and two texts that differ in ASCII case have blanks at an end
together. Nor is it seen by lowercasing by the full rules (`lowercase_asciiFold`), which looks at the
letters around a capital sigma. The two ways to lower a text agree exactly on those texts whose
capitals are all ASCII letters (`lowercase_eq_asciiFold_iff`). These are the capitals of every text that is
lowered to letters of which each is the lowercase of an ASCII capital alone, so such a text is found by its
lowercase exactly where it is found by ASCII case (`sameAscii_iff_lowercase_eq`).
-/

namespace FighterCheck.Text

/-! ## Characters -/

/-- The letters `A` to `Z`. -/
def asciiCapitals : List Char := (List.range' 0x41 26).map Char.ofNat

theorem mem_asciiCapitals {c : Char} (h : 0x41 ≤ c.toNat ∧ c.toNat ≤ 0x5A) : c ∈ asciiCapitals := by
  refine List.mem_map.mpr ⟨c.toNat, ?_, Char.ofNat_toNat c⟩
  rw [List.mem_range'_1]
  omega

/-- A character is one of the letters `A` to `Z`, or lowering these leaves it as it is. -/
theorem mem_asciiCapitals_or_toLower_eq (c : Char) : c ∈ asciiCapitals ∨ c.toLower = c := by
  by_cases h : 0x41 ≤ c.toNat ∧ c.toNat ≤ 0x5A
  · exact Or.inl (mem_asciiCapitals h)
  · refine Or.inr (dif_neg fun hval => h ⟨?_, ?_⟩)
    · exact UInt32.le_iff_toNat_le.mp hval.1
    · exact UInt32.le_iff_toNat_le.mp hval.2

/-- What is so of the letters `A` to `Z` and their lowercases is so of every character and what
lowering these letters makes of it. -/
theorem toLower_congr {α : Type} {f : Char → α}
    (h : asciiCapitals.map (fun c => f c.toLower) = asciiCapitals.map f) (c : Char) :
    f c.toLower = f c := by
  rcases mem_asciiCapitals_or_toLower_eq c with hc | hc
  · exact List.map_inj_left.mp h c hc
  · rw [hc]

/-- What trimming and lowercasing ask about a character. -/
def asked (c : Char) : Bool × Bool × Bool × List Char × Bool :=
  (isBlank c, isCased c, isCaseIgnorable c, lowerChar c, c == 'Σ')

/-- A letter and its lowercase are one to both. -/
theorem asked_toLower (c : Char) : asked c.toLower = asked c := toLower_congr (by decide +kernel) c

theorem isBlank_toLower (c : Char) : isBlank c.toLower = isBlank c := congrArg (·.1) (asked_toLower c)

theorem isCased_toLower (c : Char) : isCased c.toLower = isCased c :=
  congrArg (·.2.1) (asked_toLower c)

theorem isCaseIgnorable_toLower (c : Char) : isCaseIgnorable c.toLower = isCaseIgnorable c :=
  congrArg (·.2.2.1) (asked_toLower c)

theorem lowerChar_toLower (c : Char) : lowerChar c.toLower = lowerChar c :=
  congrArg (·.2.2.2.1) (asked_toLower c)

theorem toLower_eq_sigma_iff (c : Char) : c.toLower = 'Σ' ↔ c = 'Σ' := by
  have h : (c.toLower == 'Σ') = (c == 'Σ') := congrArg (·.2.2.2.2) (asked_toLower c)
  rw [← beq_iff_eq, h, beq_iff_eq]

/-- The signs by which a text is told apart. -/
def signs : List Char := ['[', ']', '=', ';', '\n']

/-- A sign is what becomes of itself alone. -/
theorem toLower_eq_iff {c : Char} (hc : c ∈ signs) (d : Char) : d.toLower = c ↔ d = c := by
  have hclear : (signs.all fun c => asciiCapitals.all fun d => d != c && d.toLower != c) = true := by
    decide +kernel
  rcases mem_asciiCapitals_or_toLower_eq d with hd | hd
  · have hne := List.all_eq_true.mp (List.all_eq_true.mp hclear c hc) d hd
    rw [Bool.and_eq_true, bne_iff_ne, bne_iff_ne] at hne
    exact iff_of_false hne.2 hne.1
  · rw [hd]

/-! ## Texts -/

theorem sameAscii_ofList_iff {as bs : List Char} :
    sameAscii (String.ofList as) (String.ofList bs) = true ↔
      as.map Char.toLower = bs.map Char.toLower := by
  rw [sameAscii_iff, asciiFold, asciiFold, String.ofList_inj, String.toList_ofList, String.toList_ofList]

/-- Of two texts that differ in ASCII case, both have a sign or none has. -/
theorem mem_iff_of_map_toLower_eq {as bs : List Char} (h : as.map Char.toLower = bs.map Char.toLower)
    {c : Char} (hc : c ∈ signs) : c ∈ as ↔ c ∈ bs := by
  have hmap : ∀ cs : List Char, c ∈ cs.map Char.toLower ↔ c ∈ cs := fun cs => by
    simp only [List.mem_map, toLower_eq_iff hc, exists_eq_right]
  rw [← hmap as, h, hmap]

theorem dropWhile_map_toLower {p : Char → Bool} (h : ∀ c, p c.toLower = p c) (cs : List Char) :
    (cs.map Char.toLower).dropWhile p = (cs.dropWhile p).map Char.toLower := by
  rw [List.dropWhile_map, show p ∘ Char.toLower = p from funext h]

theorem trimEnd_map_toLower (cs : List Char) :
    trimEnd (cs.map Char.toLower) = (trimEnd cs).map Char.toLower := by
  simp only [trimEnd, ← List.map_reverse, dropWhile_map_toLower isBlank_toLower]

theorem trim_map_toLower (cs : List Char) :
    trim (cs.map Char.toLower) = (trim cs).map Char.toLower := by
  rw [trim, trimStart, dropWhile_map_toLower isBlank_toLower, trimEnd_map_toLower]
  rfl

/-- **Lowering ASCII letters and trimming can be done in either order.** -/
theorem trimmed_asciiFold (s : String) : trimmed (asciiFold s) = asciiFold (trimmed s) := by
  rw [trimmed, asciiFold, asciiFold, trimmed, String.toList_ofList, String.toList_ofList,
    trim_map_toLower]

theorem trim_sublist (cs : List Char) : (trim cs).Sublist cs :=
  (trimEnd_isPrefix _).sublist.trans (List.dropWhile_sublist _)

/-- Trimming and lowering leave a text as long as it was only if there is nothing to trim. -/
theorem trimmed_eq_self_of_asciiFold_eq {s : String} (h : asciiFold (trimmed s) = asciiFold s) :
    trimmed s = s := by
  have hlength : (trim s.toList).length = s.toList.length := by
    have := congrArg (fun t : String => t.toList.length) h
    simpa [asciiFold, trimmed] using this
  rw [trimmed_eq_self_iff, ← trim_eq_self_iff]
  exact (trim_sublist s.toList).eq_of_length hlength

/-- Of two texts that differ at most in ASCII case, none has blanks around it or both have. -/
theorem trimmed_eq_self_of_sameAscii {a b : String} (h : sameAscii a b = true)
    (ha : trimmed a = a) : trimmed b = b := by
  refine trimmed_eq_self_of_asciiFold_eq ?_
  rw [← trimmed_asciiFold, ← sameAscii_iff.mp h, trimmed_asciiFold, ha]

theorem trimmed_trimmed (s : String) : trimmed (trimmed s) = trimmed s := by
  rw [trimmed_eq_self_iff, trimmed, String.toList_ofList]
  exact trimmed_trim s.toList

theorem reachesCased_map_toLower (cs : List Char) :
    reachesCased (cs.map Char.toLower) = reachesCased cs := by
  rw [reachesCased, dropWhile_map_toLower isCaseIgnorable_toLower, List.head?_map, reachesCased,
    Option.any_map]
  simp only [isCased_toLower]

theorem lowerAfter_map_toLower (before cs : List Char) :
    lowerAfter (before.map Char.toLower) (cs.map Char.toLower) = lowerAfter before cs := by
  induction cs generalizing before with
  | nil => rfl
  | cons c cs ih =>
    rw [List.map_cons, lowerAfter, lowerAfter, ← List.map_cons, ih, lowerChar_toLower]
    simp only [toLower_eq_sigma_iff, lowerSigma, reachesCased_map_toLower]

theorem lower_map_toLower (cs : List Char) : lower (cs.map Char.toLower) = lower cs :=
  lowerAfter_map_toLower [] cs

/-- **Full lowercasing does not see whether ASCII letters are capitals.** -/
theorem lowercase_asciiFold (s : String) : lowercase (asciiFold s) = lowercase s := by
  rw [lowercase, asciiFold, String.toList_ofList, lower_map_toLower]
  rfl

theorem lowercase_eq_of_sameAscii {a b : String} (h : sameAscii a b = true) :
    lowercase a = lowercase b := by
  rw [← lowercase_asciiFold a, sameAscii_iff.mp h, lowercase_asciiFold]

/-- The capitals of the text are all ASCII letters. -/
def OnlyAsciiCapitals (s : String) : Prop := ∀ c ∈ s.toList, IsLower c.toLower

instance (s : String) : Decidable (OnlyAsciiCapitals s) :=
  decidable_of_iff (s.toList.all (fun c => decide (IsLower c.toLower)) = true)
    (by simp only [List.all_eq_true, decide_eq_true_iff, OnlyAsciiCapitals])

/-- **The two ways to lower a text agree if and only if its capitals are all ASCII letters.** -/
theorem lowercase_eq_asciiFold_iff {s : String} :
    lowercase s = asciiFold s ↔ OnlyAsciiCapitals s := by
  rw [← lowercase_asciiFold, lowercase_eq_self_iff, lower_eq_self_iff, asciiFold,
    String.toList_ofList, List.forall_mem_map]
  rfl

/-- A text in lower case has no ASCII capitals. -/
theorem asciiFold_eq_self_of_lowercase {s : String} (h : lowercase s = s) : asciiFold s = s := by
  rw [lowercase_eq_self_iff, lower_eq_self_iff] at h
  have hcapitals : (asciiCapitals.all fun c => !decide (IsLower c)) = true := by decide +kernel
  have hself : ∀ c ∈ s.toList, c.toLower = c := by
    intro c hc
    refine (mem_asciiCapitals_or_toLower_eq c).resolve_left fun hmem => ?_
    have hnot := List.all_eq_true.mp hcapitals c hmem
    rw [decide_eq_true (h c hc)] at hnot
    exact nomatch hnot
  rw [asciiFold, List.map_congr_left hself, List.map_id', String.ofList_toList]

/-! ## Letters that only ASCII capitals are lowered to -/

/-- The letters `a` to `z` but for `k`, which is the lowercase of the Kelvin sign as well. -/
def ownLetterRanges : List CodeRange := [⟨0x61, 0x6A⟩, ⟨0x6C, 0x7A⟩]

/-- The character is one of these letters. Of no capital but an ASCII one is it the whole lowercase. -/
def isOwnLetter (c : Char) : Bool := inRanges ownLetterRanges c

theorem isLower_toLower_of_mem_asciiCapitals {c : Char} (hc : c ∈ asciiCapitals) : IsLower c.toLower := by
  have hall : (asciiCapitals.all fun c => decide (IsLower c.toLower)) = true := by decide +kernel
  exact of_decide_eq_true (List.all_eq_true.mp hall c hc)

theorem caseRuns_clear_of_ownLetters :
    (caseRuns.all fun r => decide (0x41 ≤ r.first ∧ r.last ≤ 0x5A) ||
      ownLetterRanges.all fun l => r.clearOf l.first l.last) = true := by
  decide +kernel

theorem mem_asciiCapitals_of_covers {r : CaseRun} (hr : r ∈ caseRuns) {c : Char}
    (hc : r.covers c.toNat = true) (hx : isOwnLetter (Char.ofNat (r.lower c.toNat)) = true) :
    c ∈ asciiCapitals := by
  have hclear := List.all_eq_true.mp caseRuns_clear_of_ownLetters r hr
  rw [Bool.or_eq_true, decide_eq_true_iff] at hclear
  rcases hclear with ⟨hfirst, hlast⟩ | hclear
  · rw [CaseRun.covers_iff] at hc
    exact mem_asciiCapitals ⟨by omega, by omega⟩
  · obtain ⟨l, hl, hfirst, hlast⟩ := inRanges_iff.mp hx
    have hne := CaseRun.lower_of_clearOf (List.all_eq_true.mp hclear l hl) hc
    rw [(toNat_ofNat_lower hr hc).1] at hfirst hlast
    omega

/-- A character that becomes one of these letters is its capital or the letter. -/
theorem isLower_toLower_of_lowerChar {c : Char} (hsigma : c ≠ 'Σ')
    (h : ∀ x ∈ lowerChar c, isOwnLetter x = true) : IsLower c.toLower := by
  by_cases hdot : c = 'İ'
  · -- the dotted capital has a second character in its lowercase
    exact absurd (h '\u0307' (hdot ▸ by decide)) (by decide)
  cases hfind : caseRuns.find? (·.covers c.toNat) with
  | some r =>
    rw [lowerChar, if_neg hdot, hfind] at h
    have hcovers : r.covers c.toNat = true := by simpa using List.find?_some hfind
    exact isLower_toLower_of_mem_asciiCapitals
      (mem_asciiCapitals_of_covers (List.mem_of_find?_eq_some hfind) hcovers (h _ List.mem_cons_self))
  | none =>
    have hlower : IsLower c := ⟨hsigma, by rw [lowerChar, if_neg hdot, hfind]⟩
    rcases mem_asciiCapitals_or_toLower_eq c with hc | hself
    · exact isLower_toLower_of_mem_asciiCapitals hc
    · rwa [hself]

/-- A text that is lowered to these letters has no capitals but `A` to `Z`. -/
theorem isLower_toLower_of_lowerAfter {before cs : List Char}
    (h : ∀ x ∈ lowerAfter before cs, isOwnLetter x = true) : ∀ c ∈ cs, IsLower c.toLower := by
  induction cs generalizing before with
  | nil => exact fun c hc => absurd hc List.not_mem_nil
  | cons c cs ih =>
    rw [lowerAfter] at h
    obtain ⟨hfirst, hrest⟩ := List.forall_mem_append.mp h
    refine List.forall_mem_cons.mpr ⟨?_, ih hrest⟩
    by_cases hsigma : c = 'Σ'
    · rw [if_pos hsigma, lowerSigma] at hfirst
      have hnot := hfirst _ List.mem_cons_self
      split at hnot <;> exact absurd hnot (by decide)
    · rw [if_neg hsigma] at hfirst
      exact isLower_toLower_of_lowerChar hsigma hfirst

/-- **Texts that are lowered to these letters by the full rules differ in ASCII case alone.** -/
theorem sameAscii_iff_lowercase_eq {a b : String}
    (hb : ∀ c ∈ (lowercase b).toList, isOwnLetter c = true) :
    sameAscii a b = true ↔ lowercase a = lowercase b := by
  refine ⟨lowercase_eq_of_sameAscii, fun h => ?_⟩
  have hcapitals : ∀ s, lowercase s = lowercase b → lowercase s = asciiFold s := by
    intro s hs
    rw [lowercase_eq_asciiFold_iff]
    rw [← hs, lowercase, String.toList_ofList] at hb
    exact isLower_toLower_of_lowerAfter hb
  rw [sameAscii_iff, ← hcapitals a h, ← hcapitals b rfl, h]

end FighterCheck.Text
