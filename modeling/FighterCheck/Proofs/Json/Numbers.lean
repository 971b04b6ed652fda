import FighterCheck.Json.Reader
import FighterCheck.Text.Integer
import Mathlib.Data.List.TakeWhile

/-!
# The characters of numbers

The reader takes as many characters as may belong to a number and then asks whether they form one. So a
number is read whole only if it is made of those characters throughout, which the grammar of numbers does
not say by itself (`all_of_isNumber`). The digits of an integer form a number, as no zero stands in front
of them (`isNumber_showInt32`).
-/

namespace FighterCheck.Json

variable {c : Char} {cs : List Char}

theorem isNumberChar_of_isDigit (h : c.isDigit) : isNumberChar c := by
  simp only [isNumberChar, h, Bool.true_or]

theorem all_of_isDigits (h : isDigits cs) : cs.all isNumberChar := by
  rw [isDigits, Bool.and_eq_true, List.all_eq_true] at h
  rw [List.all_eq_true]
  exact fun c hc => isNumberChar_of_isDigit (h.2 c hc)

/-- Digits may stand in front of anything. -/
theorem all_of_dropWhile_isDigit (h : (cs.dropWhile Char.isDigit).all isNumberChar) :
    cs.all isNumberChar := by
  have hdigits : (cs.takeWhile Char.isDigit).all isNumberChar := by
    rw [List.all_eq_true]
    exact fun c hc => isNumberChar_of_isDigit (List.all_eq_true.mp List.all_takeWhile c hc)
  rw [← List.takeWhile_append_dropWhile (p := Char.isDigit) (l := cs), List.all_append, hdigits, h]
  rfl

theorem all_of_isExponent (h : isExponent cs) : cs.all isNumberChar := by
  fun_cases isExponent cs with
  | case1 => rfl
  | case2 c cs =>
    rw [isExponent.eq_def, Bool.and_eq_true] at h
    obtain ⟨hletter, hdigits⟩ := h
    have hc : isNumberChar c := by
      simp only [isNumberChar, Bool.or_assoc, hletter, Bool.or_true]
    rw [List.all_cons, hc, Bool.true_and]
    split at hdigits
    · simp only [List.all_cons, all_of_isDigits hdigits]
      rfl
    · simp only [List.all_cons, all_of_isDigits hdigits]
      rfl
    · exact all_of_isDigits hdigits

theorem all_of_isFraction (h : isFraction cs) : cs.all isNumberChar := by
  fun_cases isFraction cs with
  | case1 cs =>
    rw [isFraction.eq_1, Bool.and_eq_true] at h
    rw [List.all_cons, all_of_dropWhile_isDigit (all_of_isExponent h.2)]
    rfl
  | case2 =>
    rw [isFraction.eq_2 cs ‹_›] at h
    exact all_of_isExponent h

theorem all_of_isUnsigned (h : isUnsigned cs) : cs.all isNumberChar := by
  fun_cases isUnsigned cs with
  | case1 cs =>
    rw [isUnsigned.eq_1] at h
    rw [List.all_cons, all_of_isFraction h]
    rfl
  | case2 c cs hzero =>
    rw [isUnsigned.eq_2 c cs hzero, Bool.and_eq_true] at h
    rw [List.all_cons, isNumberChar_of_isDigit h.1,
      all_of_dropWhile_isDigit (all_of_isFraction h.2)]
    rfl
  | case3 => rfl

/-- **A number is made of number characters.** -/
theorem all_of_isNumber (h : isNumber cs) : cs.all isNumberChar := by
  fun_cases isNumber cs with
  | case1 cs =>
    rw [isNumber.eq_1] at h
    rw [List.all_cons, all_of_isUnsigned h]
    rfl
  | case2 =>
    rw [isNumber.eq_2 cs ‹_›] at h
    exact all_of_isUnsigned h

/-- A number begins with a digit or its sign. -/
theorem exists_cons_of_isNumber (h : isNumber cs) :
    ∃ c ds, cs = c :: ds ∧ (c.isDigit ∨ c = '-') := by
  fun_cases isNumber cs with
  | case1 cs => exact ⟨'-', cs, rfl, .inr rfl⟩
  | case2 =>
    rw [isNumber.eq_2 cs ‹_›] at h
    fun_cases isUnsigned cs with
    | case1 cs => exact ⟨'0', cs, rfl, .inl rfl⟩
    | case2 c cs hzero =>
      rw [isUnsigned.eq_2 c cs hzero, Bool.and_eq_true] at h
      exact ⟨c, cs, rfl, .inl h.1⟩
    | case3 => exact nomatch h

/-! ## Integers -/

/-- **No zero stands in front of the digits of a number** that is not zero. -/
theorem exists_cons_toDigits {n : Nat} (hn : n ≠ 0) :
    ∃ c ds, Nat.toDigits 10 n = c :: ds ∧ c ≠ '0' := by
  induction n using Nat.strongRecOn with
  | ind n ih =>
    by_cases hlt : n < 10
    · have hdigit : ∀ m < 10, m ≠ 0 → Nat.digitChar m ≠ '0' := by decide
      exact ⟨_, [], Nat.toDigits_of_lt_base hlt, hdigit n hlt hn⟩
    · -- the digits of a tenth of the number come first
      obtain ⟨c, ds, hds, hc⟩ := ih (n / 10) (by omega) (by omega)
      rw [Nat.toDigits_of_base_le (by decide) (by omega), hds, List.cons_append]
      exact ⟨c, _, rfl, hc⟩

theorem isUnsigned_toDigits (n : Nat) : isUnsigned (Nat.toDigits 10 n) := by
  by_cases hn : n = 0
  · subst hn
    decide
  · have hdigit : ∀ c ∈ Nat.toDigits 10 n, c.isDigit :=
      fun c => Nat.isDigit_of_mem_toDigits (by decide) (by decide)
    obtain ⟨c, ds, hds, hc⟩ := exists_cons_toDigits hn
    rw [hds, List.forall_mem_cons] at hdigit
    rw [hds, isUnsigned.eq_2 c ds hc, hdigit.1, List.dropWhile_eq_nil_iff.mpr hdigit.2]
    rfl

/-- **An integer is written as a number.** -/
theorem isNumber_showInt32 (n : Int32) : isNumber (Text.showInt32 n).toList := by
  have hdigits := isUnsigned_toDigits n.toInt.natAbs
  unfold Text.showInt32 Text.showNat
  split
  · rw [String.toList_append, String.toList_ofList, String.toList_ofList, List.singleton_append,
      isNumber.eq_1]
    exact hdigits
  · rw [String.toList_ofList, isNumber.eq_2]
    · exact hdigits
    · -- what begins with a digit has no sign
      rintro cs hcs
      rw [hcs] at hdigits
      exact absurd hdigits (by rw [isUnsigned.eq_2 '-' cs (by decide)]; exact Bool.false_ne_true)

end FighterCheck.Json
