import FighterCheck.Pattern.CharSet

/-!
# Patterns

A pattern describes texts. Its parts are tried in order: of two choices the first counts before the
second, and a part that is repeated is taken as often, or as seldom, as can be.
-/

namespace FighterCheck

/-- A condition on the place between two characters. -/
inductive Edge where
  /-- nothing stands before -/
  | textStart
  /-- nothing stands after -/
  | textEnd
  /-- a line begins, after a line feed or, if `returns` is true, a carriage return alone, too -/
  | lineStart (returns : Bool)
  /-- a line ends, at a line feed or, if `returns` is true, at a carriage return, too -/
  | lineEnd (returns : Bool)
  /-- a word begins or ends -/
  | wordEdge
  /-- no word begins or ends -/
  | noWordEdge
  /-- a word begins -/
  | wordStart
  /-- a word ends -/
  | wordEnd
  deriving Repr, DecidableEq

/-- There is a character and it belongs to a word. -/
def isInWord (c : Option Char) : Bool := c.any CharSet.words.contains

/-- The condition holds between two characters, of which either may be missing. -/
def Edge.holds (before next : Option Char) : Edge → Bool
  | textStart => before.isNone
  | textEnd => next.isNone
  | lineStart returns =>
    match before with
    | none => true
    | some c => c == '\n' || returns && c == '\r' && next != some '\n'
  | lineEnd returns =>
    match next with
    | none => true
    | some c => if returns then c == '\r' || c == '\n' && before != some '\r' else c == '\n'
  | wordEdge => isInWord before != isInWord next
  | noWordEdge => isInWord before == isInWord next
  | wordStart => !isInWord before && isInWord next
  | wordEnd => isInWord before && !isInWord next

/-- A pattern. -/
inductive Pattern where
  /-- the empty text -/
  | empty
  /-- one character of a set -/
  | one (s : CharSet)
  /-- the empty text where a condition holds -/
  | edge (e : Edge)
  /-- one pattern after another -/
  | sequence (p q : Pattern)
  /-- one pattern, or else another -/
  | choice (p q : Pattern)
  /-- a pattern once or more, as often as can be if it is greedy, else as seldom -/
  | repeated (p : Pattern) (greedy : Bool)
  deriving Repr, DecidableEq

namespace Pattern

/-- One pattern after another, where nothing need stand for the empty text. -/
def followedBy : Pattern → Pattern → Pattern
  | empty, q => q
  | p, q => sequence p q

/-- A pattern once or not at all, once if it is greedy and can be. -/
def optional (p : Pattern) (greedy : Bool) : Pattern :=
  if greedy then choice p empty else choice empty p

/-- A pattern any number of times, as often as can be if it is greedy, else as seldom. -/
def many (p : Pattern) (greedy : Bool) : Pattern := (p.repeated greedy).optional greedy

end Pattern

end FighterCheck
