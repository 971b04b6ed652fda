import FighterCheck.Text.CaseTable

/-!
# Lowercasing

Headers and keys are lowered by the full rules of the Unicode standard. Each character is replaced
on its own, `İ` by two, with one exception: a capital sigma at the end of a word becomes `ς`, and
`σ` anywhere else. It ends a word if a cased letter stands before it and none after it, case-ignorable
characters being looked through on both sides.
-/

namespace FighterCheck.Text

/-- The property *Cased*. -/
def isCased (c : Char) : Bool := inRanges casedRanges c

/-- The property *Case_Ignorable*. -/
def isCaseIgnorable (c : Char) : Bool := inRanges caseIgnorableRanges c

/-- The first character that is not case-ignorable is cased. -/
def reachesCased (cs : List Char) : Bool :=
  (cs.dropWhile isCaseIgnorable).head?.any isCased

/-- The lowercase of a character on its own. -/
def lowerChar (c : Char) : List Char :=
  if c = 'İ' then ['i', '\u0307']
  else match caseRuns.find? (·.covers c.toNat) with
    | some r => [Char.ofNat (r.lower c.toNat)]
    | none => [c]

/-- The lowercase of a capital sigma after the characters `before`, the nearest first, and ahead of
the characters `after`. -/
def lowerSigma (before after : List Char) : Char :=
  if reachesCased before && !reachesCased after then 'ς' else 'σ'

/-- The lowercase of a text that follows the characters `before`, the nearest first. -/
def lowerAfter (before : List Char) : List Char → List Char
  | [] => []
  | c :: cs =>
    (if c = 'Σ' then [lowerSigma before cs] else lowerChar c) ++ lowerAfter (c :: before) cs

/-- The lowercase of a text. -/
def lower (cs : List Char) : List Char := lowerAfter [] cs

/-- The function `lower` on strings. -/
def lowercase (s : String) : String := String.ofList (lower s.toList)

@[simp] theorem lower_nil : lower [] = [] := rfl

end FighterCheck.Text
