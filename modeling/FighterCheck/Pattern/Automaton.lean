import FighterCheck.Pattern.Basic

/-!
# Looking for patterns

A pattern is looked for in a text from the beginning on: it takes what the first way takes that leads to
its end from the first place where there is one. It fits a text if what it takes reaches to the end of
the text.

To decide this, a pattern becomes an automaton and a text is read once. Between two characters the
states in which the reading may be stand in a list, the more preferred ones first. Those behind the
state of acceptance are dropped, because the pattern would rather end there, and so is the search for
a later place.
-/

namespace FighterCheck

namespace Pattern

/-- What a state of an automaton waits for; states are numbered. -/
inductive State where
  /-- one character of a set -/
  | one (s : CharSet) (next : Nat)
  /-- a condition on the place -/
  | edge (e : Edge) (next : Nat)
  /-- nothing: one state, or else another -/
  | branch (first second : Nat)
  /-- nothing: the pattern ends -/
  | accept
  deriving Repr, DecidableEq

/-- Adds the states of a pattern that goes on with the state `next`: its first state, and all states. -/
def addStates : Pattern → (next : Nat) → Array State → Nat × Array State
  | empty, next, states => (next, states)
  | one s, next, states => (states.size, states.push (.one s next))
  | edge e, next, states => (states.size, states.push (.edge e next))
  | sequence p q, next, states =>
    let (middle, states) := q.addStates next states
    p.addStates middle states
  | choice p q, next, states =>
    let (second, states) := q.addStates next states
    let (first, states) := p.addStates next states
    (states.size, states.push (.branch first second))
  | repeated p greedy, next, states =>
    let again := states.size
    let (first, states) := p.addStates again (states.push .accept)
    (first, states.setIfInBounds again
      (if greedy then .branch first next else .branch next first))

/-- The states in which a pattern is read. -/
structure Automaton where
  /-- the state at the beginning -/
  start : Nat
  /-- the states -/
  states : Array State
  deriving Repr, DecidableEq

/-- The automaton of a pattern, of which the first state accepts. -/
def automaton (p : Pattern) : Automaton :=
  let (start, states) := p.addStates 0 #[.accept]
  ⟨start, states⟩

namespace Automaton

/-- The states that wait for a character or accept, out of those numbered in `pending` and those that
they lead to between two characters, in order of preference. Those in `visited` have been dealt with;
`fuel` bounds how many are looked at. -/
def reachFrom (a : Automaton) (before next : Option Char) : (fuel : Nat) → (visited : Array Bool) →
    (pending : List Nat) → List State
  | 0, _, _ => []
  | _, _, [] => []
  | fuel + 1, visited, i :: pending =>
    if visited[i]?.getD true then a.reachFrom before next fuel visited pending
    else
      let visited := visited.setIfInBounds i true
      match a.states[i]? with
      | some (.branch first second) =>
        a.reachFrom before next fuel visited (first :: second :: pending)
      | some (.edge e n) =>
        a.reachFrom before next fuel visited (if e.holds before next then n :: pending else pending)
      | some s => s :: a.reachFrom before next fuel visited pending
      | none => a.reachFrom before next fuel visited pending

/-- The states that wait for a character or accept and can be reached from the given ones between two
characters. Every state adds at most two to those pending. -/
def reach (a : Automaton) (before next : Option Char) (pending : List Nat) : List State :=
  a.reachFrom before next (pending.length + 2 * a.states.size + 1)
    (Array.replicate a.states.size false) pending

/-- The pattern can end where it begins, at a place between the octets of a character, where no word
begins or ends. -/
def endsInside (a : Automaton) : Bool :=
  (a.reach (some '\u0080') (some '\u0080') [a.start]).contains .accept

/-- What the pattern takes reaches the end of a text that stands after `before`. The reading may be in
the states `pending`, and if `searching` is true, the pattern may also begin here or later. -/
def reachesEnd (a : Automaton) (before : Option Char) (pending : List Nat) (searching : Bool) :
    List Char → Bool
  | [] => (a.reach before none (pending ++ if searching then [a.start] else [])).contains .accept
  | c :: cs =>
    let reached := a.reach before (some c) (pending ++ if searching then [a.start] else [])
    let preferred := reached.takeWhile (· != .accept)
    let after := preferred.filterMap fun
      | .one s n => if s.contains c then some n else none
      | _ => none
    let searching := searching && preferred.length = reached.length &&
      !(1 < c.utf8Size && a.endsInside)
    a.reachesEnd (some c) after searching cs

end Automaton

/-- What the pattern takes, where it is first found in the text, reaches to the end of the text. -/
def fits (p : Pattern) (s : String) : Bool := p.automaton.reachesEnd none [] true s.toList

end Pattern

end FighterCheck
