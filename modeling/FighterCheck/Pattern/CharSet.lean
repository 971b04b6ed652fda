import FighterCheck.Text.CodeRange

/-!
# Sets of characters

A place in a pattern is filled by any character of a set. Sets are built from ranges of code points by
the operations on sets, and may be taken without regard to the case of ASCII letters. The kinds of
characters that have a name are kinds of ASCII characters.
-/

namespace FighterCheck

open Text (CodeRange)

/-- A set of characters. -/
inductive CharSet where
  /-- the characters in some ranges -/
  | ranges (rs : List CodeRange)
  /-- the characters of a set, ASCII letters in either case -/
  | anyCase (s : CharSet)
  /-- the characters outside a set -/
  | complement (s : CharSet)
  /-- the characters in one of two sets -/
  | union (s t : CharSet)
  /-- the characters in both of two sets -/
  | inter (s t : CharSet)
  deriving Repr, DecidableEq

namespace CharSet

/-- The character is in the set. -/
def contains : CharSet → Char → Bool
  | ranges rs, c => Text.inRanges rs c
  | anyCase s, c => s.contains c || s.contains c.toLower || s.contains c.toUpper
  | complement s, c => !s.contains c
  | union s t, c => s.contains c || t.contains c
  | inter s t, c => s.contains c && t.contains c

/-- No character. -/
def empty : CharSet := ranges []

/-- One character. -/
def single (c : Char) : CharSet := ranges [⟨c.toNat, c.toNat⟩]

/-- The characters of one set outside another. -/
def diff (s t : CharSet) : CharSet := inter s (complement t)

/-- The characters in just one of two sets. -/
def symmDiff (s t : CharSet) : CharSet := union (diff s t) (diff t s)

/-- Every character but a line feed. -/
def withinLine : CharSet := complement (single '\n')

/-- Every character. -/
def all : CharSet := complement empty

/-- Decimal digits. -/
def digits : CharSet := ranges [⟨0x30, 0x39⟩]

/-- White space. -/
def blanks : CharSet := ranges [⟨0x9, 0xD⟩, ⟨0x20, 0x20⟩]

/-- Letters, digits and the underscore. -/
def words : CharSet := ranges [⟨0x30, 0x39⟩, ⟨0x41, 0x5A⟩, ⟨0x5F, 0x5F⟩, ⟨0x61, 0x7A⟩]

/-- The characters of a kind, by its name. -/
def ofName? : String → Option CharSet
  | "alnum" => some (ranges [⟨0x30, 0x39⟩, ⟨0x41, 0x5A⟩, ⟨0x61, 0x7A⟩])
  | "alpha" => some (ranges [⟨0x41, 0x5A⟩, ⟨0x61, 0x7A⟩])
  | "ascii" => some (ranges [⟨0, 0x7F⟩])
  | "blank" => some (ranges [⟨0x9, 0x9⟩, ⟨0x20, 0x20⟩])
  | "cntrl" => some (ranges [⟨0, 0x1F⟩, ⟨0x7F, 0x7F⟩])
  | "digit" => some digits
  | "graph" => some (ranges [⟨0x21, 0x7E⟩])
  | "lower" => some (ranges [⟨0x61, 0x7A⟩])
  | "print" => some (ranges [⟨0x20, 0x7E⟩])
  | "punct" => some (ranges [⟨0x21, 0x2F⟩, ⟨0x3A, 0x40⟩, ⟨0x5B, 0x60⟩, ⟨0x7B, 0x7E⟩])
  | "space" => some blanks
  | "upper" => some (ranges [⟨0x41, 0x5A⟩])
  | "word" => some words
  | "xdigit" => some (ranges [⟨0x30, 0x39⟩, ⟨0x41, 0x46⟩, ⟨0x61, 0x66⟩])
  | _ => none

end CharSet

end FighterCheck
