import FighterCheck.Proofs.Text.Trim
import FighterCheck.Text.Integer
import Mathlib.Data.List.Induction
import Mathlib.Data.Nat.Digits.Defs

/-!
# Numerals

A numeral is one or more ASCII digits, with or without a sign in front of them, and stands for what its
digits come to in base ten (`IsNumeral`). The same number has many: zeros may stand in front of its digits,
and a plus in front of these. Reading gives the number of a numeral and refuses every other text
(`readInteger_eq_some_iff`); a number of 32 bits is read exactly from its numerals, and a numeral of any
other number is refused rather than taken for one that it is not (`readInt32_eq_some_iff`,
`readInt32_eq_none`).
-/

namespace FighterCheck.Text

/-- One or more ASCII digits and nothing else. -/
structure AllDigits (ds : List Char) : Prop where
  /-- there is a digit -/
  ne_nil : ds ≠ []
  /-- there is nothing else -/
  isDigit : ∀ c ∈ ds, c.isDigit = true

/-- What digits come to in base ten, the last one counting once. -/
def decimal (ds : List Char) : Nat := Nat.ofDigits 10 (ds.reverse.map digitValue)

/-- The text is a numeral of the number. -/
inductive IsNumeral : List Char → Int → Prop
  /-- digits -/
  | unsigned {ds} (h : AllDigits ds) : IsNumeral ds (decimal ds)
  /-- digits behind a plus -/
  | plus {ds} (h : AllDigits ds) : IsNumeral ('+' :: ds) (decimal ds)
  /-- digits behind a minus -/
  | minus {ds} (h : AllDigits ds) : IsNumeral ('-' :: ds) (-decimal ds)

variable {cs ds : List Char} {c : Char} {v w : Int} {n : Int32}

/-! ## Digits -/

theorem digitsValue_append_singleton (ds : List Char) (d : Char) :
    digitsValue (ds ++ [d]) = 10 * digitsValue ds + digitValue d := by
  rw [digitsValue, List.foldl_append]
  rfl

/-- **Adding digits up from the left comes to their value in base ten.** -/
theorem digitsValue_eq_decimal (ds : List Char) : digitsValue ds = decimal ds := by
  induction ds using List.reverseRecOn with
  | nil => rfl
  | append_singleton ds d ih =>
    rw [digitsValue_append_singleton, ih, decimal, decimal, List.reverse_append, List.reverse_singleton,
      List.singleton_append, List.map_cons, Nat.ofDigits_cons, Nat.add_comm]

theorem readDigits_eq_some_iff {m : Nat} :
    readDigits ds = some m ↔ AllDigits ds ∧ decimal ds = m := by
  rw [← digitsValue_eq_decimal, readDigits]
  split
  · next h =>
    rw [Option.some.injEq, and_iff_right]
    exact ⟨h.1, List.all_eq_true.mp h.2⟩
  · next h =>
    refine iff_of_false nofun fun ⟨hds, _⟩ => h ⟨hds.ne_nil, ?_⟩
    exact List.all_eq_true.mpr hds.isDigit

/-! ## The characters of a numeral -/

/-- The signs and the digits. -/
def numeralChars : List Char := '+' :: '-' :: (List.range' 0x30 10).map Char.ofNat

theorem mem_numeralChars_of_isDigit (h : c.isDigit = true) : c ∈ numeralChars := by
  rw [Char.isDigit, Bool.and_eq_true, decide_eq_true_iff, decide_eq_true_iff] at h
  have hlow : 0x30 ≤ c.toNat := UInt32.le_iff_toNat_le.mp h.1
  have hhigh : c.toNat ≤ 0x39 := UInt32.le_iff_toNat_le.mp h.2
  refine List.mem_cons_of_mem _ (List.mem_cons_of_mem _ (List.mem_map.mpr ⟨c.toNat, ?_, Char.ofNat_toNat c⟩))
  rw [List.mem_range'_1]
  omega

namespace IsNumeral

theorem ne_nil (h : IsNumeral cs v) : cs ≠ [] := by
  cases h with
  | unsigned h => exact h.ne_nil
  | plus h => exact List.cons_ne_nil _ _
  | minus h => exact List.cons_ne_nil _ _

theorem mem_numeralChars (h : IsNumeral cs v) : ∀ c ∈ cs, c ∈ numeralChars := by
  have hdigits : ∀ {ds}, AllDigits ds → ∀ c ∈ ds, c ∈ numeralChars :=
    fun hds c hc => mem_numeralChars_of_isDigit (hds.isDigit c hc)
  cases h with
  | unsigned h => exact hdigits h
  | plus h => exact List.forall_mem_cons.mpr ⟨by decide, hdigits h⟩
  | minus h => exact List.forall_mem_cons.mpr ⟨by decide, hdigits h⟩

/-- A numeral holds no blanks. -/
theorem isBlank_eq_false (h : IsNumeral cs v) : ∀ c ∈ cs, isBlank c = false := by
  have hchars : (numeralChars.all fun c => !isBlank c) = true := by decide
  intro c hc
  simpa using List.all_eq_true.mp hchars c (h.mem_numeralChars c hc)

theorem comma_notMem (h : IsNumeral cs v) : ',' ∉ cs := fun hmem =>
  absurd (h.mem_numeralChars _ hmem) (by decide)

theorem space_notMem (h : IsNumeral cs v) : ' ' ∉ cs := fun hmem =>
  absurd (h.mem_numeralChars _ hmem) (by decide)

theorem trimmed (h : IsNumeral cs v) : Trimmed cs where
  head c hc := h.isBlank_eq_false c (List.mem_of_head? hc)
  last c hc := h.isBlank_eq_false c (List.mem_of_getLast? hc)

end IsNumeral

/-! ## Reading -/

theorem readInteger_plus (cs : List Char) :
    readInteger ('+' :: cs) = (readDigits cs).map fun m : Nat => (m : Int) := rfl

theorem readInteger_minus (cs : List Char) :
    readInteger ('-' :: cs) = (readDigits cs).map fun m : Nat => -(m : Int) := by
  rw [readInteger]
  cases readDigits cs <;> rfl

/-- Digits in front of which no sign stands are read as they are. -/
theorem readInteger_of_allDigits (h : AllDigits ds) : readInteger ds = some (decimal ds) := by
  have hread : readDigits ds = some (decimal ds) := readDigits_eq_some_iff.mpr ⟨h, rfl⟩
  unfold readInteger
  split
  · exact absurd (h.isDigit '+' List.mem_cons_self) (by decide)
  · exact absurd (h.isDigit '-' List.mem_cons_self) (by decide)
  · rw [hread]
    rfl

/-- **Exactly the numerals are read**, each as the number that it stands for. -/
theorem readInteger_eq_some_iff : readInteger cs = some v ↔ IsNumeral cs v := by
  have hdigits : ∀ {ds : List Char} {f : Nat → Int}, (readDigits ds).map f = some v →
      AllDigits ds ∧ f (decimal ds) = v := by
    intro ds f h
    obtain ⟨m, hread, hv⟩ := Option.map_eq_some_iff.mp h
    obtain ⟨hds, rfl⟩ := readDigits_eq_some_iff.mp hread
    exact ⟨hds, hv⟩
  constructor
  · intro h
    fun_cases readInteger cs with
    | case1 cs =>
      rw [readInteger_plus] at h
      obtain ⟨hds, rfl⟩ := hdigits h
      exact .plus hds
    | case2 cs =>
      rw [readInteger_minus] at h
      obtain ⟨hds, rfl⟩ := hdigits h
      exact .minus hds
    | case3 _ hplus hminus =>
      rw [readInteger] at h
      · obtain ⟨hds, rfl⟩ := hdigits h
        exact .unsigned hds
      · exact hplus
      · exact hminus
  · intro h
    cases h with
    | unsigned h => exact readInteger_of_allDigits h
    | plus h => rw [readInteger_plus, readDigits_eq_some_iff.mpr ⟨h, rfl⟩, Option.map_some]
    | minus h => rw [readInteger_minus, readDigits_eq_some_iff.mpr ⟨h, rfl⟩, Option.map_some]

instance (cs : List Char) (v : Int) : Decidable (IsNumeral cs v) :=
  decidable_of_iff _ readInteger_eq_some_iff

/-- A numeral stands for one number. -/
theorem IsNumeral.unique (hv : IsNumeral cs v) (hw : IsNumeral cs w) : v = w :=
  Option.some.inj ((readInteger_eq_some_iff.mpr hv).symm.trans (readInteger_eq_some_iff.mpr hw))

/-- **A number of 32 bits is read from its numerals, and from nothing else.** -/
theorem readInt32_eq_some_iff : readInt32 cs = some n ↔ IsNumeral cs n.toInt := by
  rw [← readInteger_eq_some_iff, readInt32, Option.bind_eq_some_iff]
  constructor
  · rintro ⟨v, hread, hv⟩
    split at hv
    · next hrange =>
      rw [hread, ← Option.some.inj hv, Int32.toInt_ofInt_of_le hrange.1 (by omega)]
    · exact nomatch hv
  · intro hread
    have hlow := n.le_toInt
    have hhigh := n.toInt_lt
    refine ⟨n.toInt, hread, ?_⟩
    rw [if_pos ⟨hlow, by omega⟩, Int32.ofInt_toInt]

/-- **A numeral of a number that does not fit in 32 bits is not read**, and not taken for another. -/
theorem readInt32_eq_none (h : IsNumeral cs v) (hrange : v < -2 ^ 31 ∨ 2 ^ 31 ≤ v) :
    readInt32 cs = none := by
  rw [readInt32, readInteger_eq_some_iff.mpr h, Option.bind_some, if_neg]
  omega

/-! ## Writing -/

theorem allDigits_showNat (m : Nat) : AllDigits (showNat m).toList := by
  rw [showNat, String.toList_ofList]
  exact ⟨List.ne_nil_of_length_pos Nat.length_toDigits_pos,
    fun c hc => Nat.isDigit_of_mem_toDigits (by decide) (by decide) hc⟩

theorem decimal_showNat (m : Nat) : decimal (showNat m).toList = m := by
  rw [← digitsValue_eq_decimal, showNat, String.toList_ofList]
  exact Nat.ofDigitChars_toDigits (by decide) (by decide)

/-- **What is written for a number is a numeral of it**, at either end of the range too. -/
theorem isNumeral_showInt32 (n : Int32) : IsNumeral (showInt32 n).toList n.toInt := by
  have hdigits := allDigits_showNat n.toInt.natAbs
  have hvalue := decimal_showNat n.toInt.natAbs
  unfold showInt32
  split
  · next hneg =>
    have hminus := IsNumeral.minus hdigits
    rw [hvalue, show -(n.toInt.natAbs : Int) = n.toInt by omega] at hminus
    rw [String.toList_append]
    exact hminus
  · next hpos =>
    have hplain := IsNumeral.unsigned hdigits
    rwa [hvalue, show (n.toInt.natAbs : Int) = n.toInt by omega] at hplain

end FighterCheck.Text
