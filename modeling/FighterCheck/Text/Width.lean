import FighterCheck.Text.VisibleTable
import FighterCheck.Text.WidthTable

/-!
# How wide text is shown

In a column of text a character takes one place, two if it is wide as East Asian characters are, and
none if it joins the character before it or does not show at all. Some characters join into one shape
with what follows them: letters of several scripts, and pictures with their colours, their selectors
and other pictures. So the width of a text is counted from its end, and each character is judged by
what stands after it.
-/

namespace FighterCheck.Text

/-! ## Characters -/

/-- How many places a character takes by itself. -/
def charWidth (c : Char) : Nat :=
  if c.toNat = 0x2D7F then 1
  else if c.toNat = 0x17D8 then 3
  else if inRanges extendingRanges c || inRanges placelessRanges c then 0
  else if inRanges wideRanges c then 2
  else 1

/-- The character links those on either side of it. -/
def isLink (c : Char) : Bool := c.toNat = 0x200D

/-- The character asks for the picture that the one before it can be shown as. -/
def asksForPicture (c : Char) : Bool := c.toNat = 0xFE0F

/-- The character asks for the text that the picture before it can be shown as. -/
def asksForText (c : Char) : Bool := c.toNat = 0xFE0E

/-- The character is a picture that can be asked to be shown as narrow text. -/
def canBeText (c : Char) : Bool :=
  inRanges variedPictureRanges c || c.toNat ≤ 0xFFFF && inRanges pictureRanges c

/-- The character can be asked to be shown as a picture. Two that can are wide as text, too. -/
def canBePicture (c : Char) : Bool :=
  inRanges plainPictureRanges c || canBeText c || c.toNat = 0x1F21A || c.toNat = 0x1F22F

/-- The character is one of the letters that make up flags. -/
def isFlagLetter (c : Char) : Bool := CodeRange.contains ⟨0x1F1E6, 0x1F1FF⟩ c.toNat

/-- The character is a colour of skin. -/
def isSkinColour (c : Char) : Bool := CodeRange.contains ⟨0x1F3FB, 0x1F3FF⟩ c.toNat

/-- The character is a hidden letter in the name of a flag. -/
def isTagLetter (c : Char) : Bool := CodeRange.contains ⟨0xE0061, 0xE007A⟩ c.toNat

/-- The character is a hidden digit in the name of a flag. -/
def isTagDigit (c : Char) : Bool := CodeRange.contains ⟨0xE0030, 0xE0039⟩ c.toNat

/-- The consonants of Tifinagh. -/
def tifinaghConsonants : List CodeRange := [⟨0x2D31, 0x2D65⟩, ⟨0x2D6F, 0x2D6F⟩]

/-- The letters of the Arabic group *Lam*. -/
def lamRanges : List CodeRange :=
  [⟨0x644, 0x644⟩, ⟨0x6B5, 0x6B8⟩, ⟨0x76A, 0x76A⟩, ⟨0x8A6, 0x8A6⟩, ⟨0x8C7, 0x8C7⟩]

/-- The letters of the Arabic group *Alef*. -/
def alefRanges : List CodeRange :=
  [⟨0x622, 0x623⟩, ⟨0x625, 0x625⟩, ⟨0x627, 0x627⟩, ⟨0x671, 0x673⟩, ⟨0x675, 0x675⟩, ⟨0x773, 0x774⟩,
    ⟨0x870, 0x882⟩]

/-- The letters of Khmer that can stand below another. -/
def khmerSubjoinedRanges : List CodeRange :=
  [⟨0x1780, 0x1782⟩, ⟨0x1784, 0x1787⟩, ⟨0x1789, 0x178C⟩, ⟨0x178E, 0x1793⟩, ⟨0x1795, 0x1798⟩,
    ⟨0x179B, 0x179D⟩, ⟨0x17A0, 0x17A0⟩, ⟨0x17A2, 0x17A2⟩, ⟨0x17A7, 0x17A7⟩, ⟨0x17AB, 0x17AC⟩,
    ⟨0x17AF, 0x17AF⟩]

/-- Characters that can stand inside a joined shape without a part in it. -/
def intrudingRanges : List CodeRange :=
  [⟨0x34F, 0x34F⟩, ⟨0x17B4, 0x17B5⟩, ⟨0x180B, 0x180D⟩, ⟨0x180F, 0x180F⟩, ⟨0x200D, 0x200D⟩,
    ⟨0xFE00, 0xFE0F⟩, ⟨0xE0100, 0xE01EF⟩]

/-- The character takes no place and lets Arabic letters on either side of it join. -/
def isTransparent (c : Char) : Bool := charWidth c = 0 && !inRanges partingRanges c

/-! ## What stands after a character -/

/-- The end of a shape that a character may join. -/
inductive Ending where
  /-- nothing that joins -/
  | none
  /-- a line feed -/
  | lineFeed
  /-- an Arabic letter of the group *Alef* -/
  | alef
  /-- a Hebrew lamed -/
  | lamed
  /-- a Khmer letter that can stand below another -/
  | subjoined
  /-- a Buginese ya -/
  | ya
  /-- a Buginese ya with a vowel sign linked to it -/
  | yaWithVowel
  /-- a consonant of Tifinagh -/
  | consonant
  /-- a consonant of Tifinagh after the sign that joins it -/
  | joinedConsonant
  /-- a low tone letter of Lisu -/
  | lowTone
  /-- an Old Turkic letter that stands second in a shape -/
  | orkhonI
  /-- the vowel sign E of Kirat Rai -/
  | vowelE
  /-- the vowel sign AI of Kirat Rai -/
  | vowelAI
  /-- a colour of skin -/
  | skinColour
  /-- a letter of a flag -/
  | flagLetter
  /-- several letters of flags -/
  | flagLetters
  /-- a picture -/
  | picture
  /-- a picture after a link -/
  | linkedPicture
  /-- the frame of a key and a picture after a link -/
  | linkedKey
  /-- a letter of a flag before a linked picture -/
  | linkedFlagLetter
  /-- letters of flags before a linked picture, in pairs or with one over -/
  | linkedFlagLetters (paired : Bool)
  /-- the end of the hidden name of a flag before a linked picture, after so many letters and digits -/
  | tags (letters digits : Nat)
  deriving Repr, DecidableEq

/-- The ending is that of letters that join, whatever selectors stand between them. -/
def Ending.isScript : Ending → Bool
  | .alef | .lamed | .subjoined | .ya | .yaWithVowel | .consonant | .joinedConsonant | .lowTone
  | .orkhonI => true
  | _ => false

/-- The ending is that of a linked picture. -/
def Ending.isLinked : Ending → Bool
  | .linkedPicture | .linkedKey => true
  | _ => false

/-- The ending that a character makes by itself. -/
def Ending.ofChar (c : Char) : Ending :=
  if inRanges alefRanges c then .alef
  else if c.toNat = 0x5DC then .lamed
  else if inRanges khmerSubjoinedRanges c then .subjoined
  else if c.toNat = 0x1A10 then .ya
  else if inRanges tifinaghConsonants c then .consonant
  else if c.toNat = 0xA4FC ∨ c.toNat = 0xA4FD then .lowTone
  else if c.toNat = 0x10C03 then .orkhonI
  else if c.toNat = 0x16D67 then .vowelE
  else if c.toNat = 0x16D68 then .vowelAI
  else if isSkinColour c then .skinColour
  else if isFlagLetter c then .flagLetter
  else if inRanges pictureRanges c then .picture
  else .none

/-- What stands after a character. -/
structure Following where
  /-- the end of a shape -/
  ending : Ending
  /-- a link stands before it -/
  linked : Bool
  /-- a selector before it asks for a picture -/
  asPicture : Bool
  /-- a selector before it asks for text -/
  asText : Bool
  deriving Repr, DecidableEq

namespace Following

/-- Nothing stands before the ending. -/
def of (e : Ending) : Following := ⟨e, false, false, false⟩

/-- Nothing that joins. -/
def nothing : Following := of .none

/-- After a selector that asks for a picture. -/
def askPicture (f : Following) : Following :=
  if f.ending.isScript then { f with asPicture := true }
  else if f.ending.isLinked then { of f.ending with asPicture := true }
  else { nothing with asPicture := true }

/-- After a selector that asks for text. -/
def askText (f : Following) : Following :=
  if f.ending.isScript then { f with asText := true } else { nothing with asText := true }

/-- A picture that has been asked for does not come. -/
def withoutPicture (f : Following) : Following :=
  if !f.asPicture then f
  else if f.ending.isScript then { f with asPicture := false }
  else nothing

end Following

/-! ## Joining -/

/-- A character joins with the ending after it: the places it adds, which are fewer than none if it
takes away some that were counted, and the ending that it makes. `linked` says whether a link stands
between the two. -/
def join (c : Char) (e : Ending) (linked : Bool) : Option (Int × Ending) :=
  let n := c.toNat
  match e with
  | .alef =>
    if inRanges lamRanges c then some (0, .none)
    else if isTransparent c then some (0, .alef)
    else none
  | .lamed => if linked ∧ n = 0x5D0 then some (0, .none) else none
  | .subjoined => if n = 0x17D2 then some (-1, .none) else none
  | .ya => if linked ∧ n = 0x1A17 then some (0, .yaWithVowel) else none
  | .yaWithVowel => if n = 0x1A15 then some (0, .none) else none
  | .consonant =>
    if n = 0x2D7F then some (1, .joinedConsonant)
    else if linked ∧ inRanges tifinaghConsonants c then some (0, .none)
    else none
  | .joinedConsonant => if inRanges tifinaghConsonants c then some (-1, .none) else none
  | .lowTone => if 0xA4F8 ≤ n ∧ n ≤ 0xA4FB then some (0, .none) else none
  | .orkhonI => if linked ∧ n = 0x10C32 then some (0, .none) else none
  | .vowelE =>
    if n = 0x16D63 ∨ n = 0x16D69 then some (0, .none)
    else if n = 0x16D67 then some (0, .vowelAI)
    else if n = 0x16D68 then some (1, .vowelE)
    else none
  | .vowelAI => if n = 0x16D63 then some (0, .none) else none
  | .skinColour =>
    if inRanges skinRanges c then some (0, .picture)
    else if isLink c then some (0, .linkedPicture)
    else none
  | .flagLetter => if isFlagLetter c then some (1, .flagLetters) else none
  | .flagLetters =>
    if isFlagLetter c then some (1, .flagLetters)
    else if isLink c then some (0, .linkedPicture)
    else none
  | .picture => if isLink c then some (0, .linkedPicture) else none
  | .linkedPicture =>
    if n = 0x20E3 then some (0, .linkedKey)
    else if isFlagLetter c then some (1, .linkedFlagLetter)
    else if isSkinColour c then some (0, .skinColour)
    else if n = 0xE007F then some (0, .tags 0 0)
    else if inRanges pictureRanges c then some (0, .picture)
    else none
  | .linkedFlagLetter => if isFlagLetter c then some (-1, .linkedFlagLetters true) else none
  | .linkedFlagLetters paired =>
    if isFlagLetter c then some (if paired then (3, .linkedFlagLetters false)
      else (-1, .linkedFlagLetters true))
    else if isLink c then some (0, .linkedPicture)
    else none
  | .tags letters digits =>
    if digits = 0 ∧ letters < 6 ∧ isTagLetter c then some (0, .tags (letters + 1) 0)
    else if digits < 3 ∧ letters ≤ 4 ∧ isTagDigit c then some (0, .tags letters (digits + 1))
    else if n = 0x1F3F4 ∧ (digits = 3 ∨ digits = 0 ∧ 3 ≤ letters) then some (0, .picture)
    else none
  | _ => none

/-- The places that a character adds where no picture has been asked for, and what then stands after
the character before it. -/
def addPlain (c : Char) (f : Following) : Int × Following :=
  let alone : Int × Following := (charWidth c, .of (.ofChar c))
  if c.toNat ≤ 0xA0 then
    if c = '\r' ∧ f.ending = .lineFeed then (0, .nothing)
    else (1, .of (if c = '\n' then .lineFeed else .none))
  else if asksForPicture c then (0, f.askPicture)
  else if asksForText c then (0, f.askText)
  else if f.asText ∧ canBeText c then (1, .nothing)
  else
    let f := if f.ending.isScript then { f with asText := false } else .of f.ending
    if f.ending.isScript ∧ f.ending ≠ .alef ∧ inRanges intrudingRanges c then
      (0, { f with linked := f.linked || isLink c })
    else match join c f.ending f.linked with
      | some (n, e) => (n, .of e)
      | none => alone

/-- The places that a character adds, and what then stands after the character before it. -/
def addChar (c : Char) (f : Following) : Int × Following :=
  if f.asPicture ∧ canBePicture c then (if f.ending.isLinked then 0 else 2, .of .picture)
  else addPlain c f.withoutPicture

/-- How many places a text takes. -/
def width (s : String) : Nat :=
  let counted : Int × Following := s.toList.foldr
    (fun c (n, f) => let (w, f) := addChar c f; (n + w, f)) (0, .nothing)
  counted.1.toNat

end FighterCheck.Text
