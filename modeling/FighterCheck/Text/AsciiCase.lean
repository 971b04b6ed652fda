/-!
# Names compared without regard to ASCII case

Option values and the names of parameters and controllers are compared letter by letter after the
twenty-six letters `A` to `Z` have been lowered; every other character, accented letters included,
stands for itself.
-/

namespace FighterCheck.Text

/-- The text with `A` to `Z` lowered and all else as it is. -/
def asciiFold (s : String) : String := String.ofList (s.toList.map Char.toLower)

/-- The two texts differ at most in the case of ASCII letters. -/
def sameAscii (a b : String) : Bool := asciiFold a == asciiFold b

theorem sameAscii_iff {a b : String} : sameAscii a b = true ↔ asciiFold a = asciiFold b := by
  simp [sameAscii]

@[simp] theorem sameAscii_refl (a : String) : sameAscii a a = true := by
  simp [sameAscii]

theorem sameAscii_comm (a b : String) : sameAscii a b = sameAscii b a := by
  rw [Bool.eq_iff_iff, sameAscii_iff, sameAscii_iff]
  exact eq_comm

end FighterCheck.Text
