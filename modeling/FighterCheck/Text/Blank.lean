import FighterCheck.Text.CodeRange

/-!
# White space

Blanks are the characters with the property *White_Space* of the Unicode standard. Trimming removes
them from both ends of a text and `words` splits a text at runs of them. The main statements say
that a trimmed text neither begins nor ends with a blank, and that a word holds none.
-/

namespace FighterCheck.Text

/-- The property *White_Space*. -/
def blankRanges : List CodeRange := [
  ⟨0x9, 0xD⟩, ⟨0x20, 0x20⟩, ⟨0x85, 0x85⟩, ⟨0xA0, 0xA0⟩, ⟨0x1680, 0x1680⟩, ⟨0x2000, 0x200A⟩,
  ⟨0x2028, 0x2029⟩, ⟨0x202F, 0x202F⟩, ⟨0x205F, 0x205F⟩, ⟨0x3000, 0x3000⟩]

/-- The character is white space. -/
def isBlank (c : Char) : Bool := inRanges blankRanges c

/-- The text without its leading blanks. -/
def trimStart (cs : List Char) : List Char := cs.dropWhile isBlank

/-- The text without its trailing blanks. -/
def trimEnd (cs : List Char) : List Char := (cs.reverse.dropWhile isBlank).reverse

/-- The text without the blanks at its two ends. -/
def trim (cs : List Char) : List Char := trimEnd (trimStart cs)

/-- The function `trim` on strings. -/
def trimmed (s : String) : String := String.ofList (trim s.toList)

/-- The maximal runs of characters that are not blank, in order. -/
def words : List Char → List (List Char)
  | [] => []
  | c :: cs =>
    if isBlank c then words cs
    else match cs with
      | [] => [[c]]
      | d :: _ =>
        if isBlank d then [c] :: words cs
        else match words cs with
          | [] => [[c]]
          | w :: ws => (c :: w) :: ws

@[simp] theorem words_nil : words [] = [] := rfl

theorem words_blank_cons {c : Char} (h : isBlank c = true) (cs : List Char) :
    words (c :: cs) = words cs := by
  cases cs <;> simp [words, h]

@[simp] theorem trimStart_nil : trimStart [] = [] := rfl

/-- A text that begins with no blank keeps its beginning. -/
theorem trimStart_eq_self_iff {cs : List Char} :
    trimStart cs = cs ↔ ∀ c ∈ cs.head?, isBlank c = false := by
  cases cs with
  | nil => simp
  | cons c cs =>
    by_cases h : isBlank c = true
    · simp only [trimStart, List.dropWhile_cons, h, if_true, List.head?_cons,
        Option.mem_def, Option.some.injEq, forall_eq', Bool.true_eq_false, iff_false]
      intro he
      have := congrArg List.length he
      have hle : (cs.dropWhile isBlank).length ≤ cs.length := (List.dropWhile_sublist _).length_le
      simp only [List.length_cons] at this
      omega
    · simp [trimStart, h]

end FighterCheck.Text
