import FighterCheck.Json.Printer
import FighterCheck.Json.Reader

/-!
# Texts inside JSON

Writing a text escapes some of its characters, and reading it goes through UTF-16 units, so that the two
have little in common: an escape names a character by a letter or a unit by four digits, and reading
joins units that belong together. But no character is half of a surrogate pair, so the units that are
read from what was written are its code points (`scanText_flatMap_escapeChar`), and there is nothing to
join (`joinSurrogates_map_toNat`).
-/

namespace FighterCheck.Json

variable {c : Char} {cs rest : List Char} {us : List Nat}

/-! ## Escapes -/

/-- A control is read from the four digits that it is written with. -/
theorem unit?_of_control {n : Nat} (h : n < 0x20) :
    unit? '0' '0' (hexDigit (n / 16)) (hexDigit n) = some n := by
  revert n
  decide

theorem scanText_of_letter {e : Char} (he : escaped? e = some c) (h : scanText cs = some (us, rest)) :
    scanText ('\\' :: e :: cs) = some (c.toNat :: us, rest) := by
  have hne : e ≠ 'u' := by
    rintro rfl
    exact nomatch he
  rw [scanText.eq_4 e cs fun _ _ _ _ _ hu _ => hne hu, he, h]
  rfl

theorem scanText_of_control (hc : c.toNat < 0x20) (h : scanText cs = some (us, rest)) :
    scanText ('\\' :: 'u' :: '0' :: '0' :: hexDigit (c.toNat / 16) :: hexDigit c.toNat :: cs) =
      some (c.toNat :: us, rest) := by
  rw [scanText.eq_3, unit?_of_control hc, h]
  rfl

/-- A character that needs no escape is read as it is. -/
theorem scanText_of_plain (hquote : c ≠ '"') (hslash : c ≠ '\\') (hcontrol : ¬ c.toNat < 0x20)
    (h : scanText cs = some (us, rest)) : scanText (c :: cs) = some (c.toNat :: us, rest) := by
  rw [scanText.eq_5 c cs hquote (fun _ _ _ _ _ hc _ => hslash hc) (fun _ _ hc _ => hslash hc),
    if_neg (not_or.mpr ⟨hslash, hcontrol⟩), h]
  rfl

/-- The characters that are escaped by a letter. -/
def letterEscaped : List Char := ['"', '\\', '\x08', '\x0c', '\n', '\r', '\t']

theorem exists_letter_of_mem_letterEscaped (hc : c ∈ letterEscaped) :
    ∃ e, escaped? e = some c ∧ escapeChar c = ['\\', e] := by
  simp only [letterEscaped, List.mem_cons, List.not_mem_nil, or_false] at hc
  rcases hc with rfl | rfl | rfl | rfl | rfl | rfl | rfl
  · exact ⟨'"', rfl, rfl⟩
  · exact ⟨'\\', rfl, rfl⟩
  · exact ⟨'b', rfl, rfl⟩
  · exact ⟨'f', rfl, rfl⟩
  · exact ⟨'n', rfl, rfl⟩
  · exact ⟨'r', rfl, rfl⟩
  · exact ⟨'t', rfl, rfl⟩

/-- Of the characters that are not escaped by a letter, only controls are escaped. -/
theorem escapeChar_of_notMem_letterEscaped (hc : c ∉ letterEscaped) :
    escapeChar c =
      if c.toNat < 0x20 then
        ['\\', 'u', '0', '0', hexDigit (c.toNat / 16), hexDigit c.toNat]
      else [c] := by
  simp only [letterEscaped, List.mem_cons, List.not_mem_nil, or_false, not_or] at hc
  obtain ⟨hquote, hslash, hback, hfeed, hline, hreturn, htab⟩ := hc
  simp only [escapeChar, hquote, hslash, hback, hfeed, hline, hreturn, htab, if_false]

/-- **A character is read from its written form as its code point.** -/
theorem scanText_escapeChar_append (c : Char) (h : scanText cs = some (us, rest)) :
    scanText (escapeChar c ++ cs) = some (c.toNat :: us, rest) := by
  by_cases hletter : c ∈ letterEscaped
  · obtain ⟨e, he, hform⟩ := exists_letter_of_mem_letterEscaped hletter
    rw [hform]
    exact scanText_of_letter he h
  · rw [escapeChar_of_notMem_letterEscaped hletter]
    by_cases hcontrol : c.toNat < 0x20
    · rw [if_pos hcontrol]
      exact scanText_of_control hcontrol h
    · rw [if_neg hcontrol]
      refine scanText_of_plain ?_ ?_ hcontrol h
      · rintro rfl
        exact hletter (by decide)
      · rintro rfl
        exact hletter (by decide)

/-- **A text is read up to its closing quote**, as the code points that were written. -/
theorem scanText_flatMap_escapeChar (cs rest : List Char) :
    scanText (cs.flatMap escapeChar ++ '"' :: rest) = some (cs.map Char.toNat, rest) := by
  induction cs with
  | nil => exact scanText.eq_2 rest
  | cons c cs ih =>
    rw [List.flatMap_cons, List.append_assoc, List.map_cons]
    exact scanText_escapeChar_append c ih

/-! ## Surrogates -/

/-- No character is half of a surrogate pair. -/
theorem toNat_not_surrogate (c : Char) : ¬ (0xD800 ≤ c.toNat ∧ c.toNat < 0xE000) := by
  rcases c.valid with h | ⟨h, _⟩
  · exact fun hc => absurd h (Nat.not_lt.mpr hc.1)
  · exact fun hc => absurd hc.2 (Nat.not_lt.mpr h)

theorem joinSurrogates_map_toNat (cs : List Char) :
    joinSurrogates none (cs.map Char.toNat) = some cs := by
  induction cs with
  | nil => rfl
  | cons c cs ih =>
    have hnot := toNat_not_surrogate c
    rw [List.map_cons, joinSurrogates, if_neg (by omega), if_neg (by omega), ih, Char.ofNat_toNat]
    rfl

/-! ## What is left to read -/

theorem length_le_of_map_scanText {u : Nat}
    (hcs : ∀ {us : List Nat} {rest : List Char}, scanText cs = some (us, rest) →
      rest.length ≤ cs.length)
    (h : ((scanText cs).map fun (us, rest) => (u :: us, rest)) = some (us, rest)) :
    rest.length ≤ cs.length := by
  obtain ⟨⟨vs, tail⟩, hscan, heq⟩ := Option.map_eq_some_iff.mp h
  obtain ⟨_, rfl⟩ := Prod.mk.inj heq
  exact hcs hscan

/-- Reading a text takes away some of the characters. -/
theorem length_le_of_scanText {cs : List Char} (h : scanText cs = some (us, rest)) :
    rest.length ≤ cs.length := by
  fun_induction scanText cs generalizing us rest with
  | case1 => exact nomatch h
  | case2 cs =>
    obtain ⟨_, rfl⟩ := Prod.mk.inj (Option.some.inj h)
    exact Nat.le_succ _
  | case3 a b c d cs hu => exact nomatch h
  | case4 a b c d cs u hu ih =>
    have hle := length_le_of_map_scanText ih h
    simp only [List.length_cons]
    omega
  | case5 e cs _ he => exact nomatch h
  | case6 e cs _ c he ih =>
    have hle := length_le_of_map_scanText ih h
    simp only [List.length_cons]
    omega
  | case7 c cs _ _ _ hc => exact nomatch h
  | case8 c cs _ _ _ hc ih => exact Nat.le_succ_of_le (length_le_of_map_scanText ih h)

end FighterCheck.Json
