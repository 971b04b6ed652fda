import FighterCheck.Pattern.Basic
import FighterCheck.Text.Blank
import FighterCheck.Text.LetterTable

/-!
# Reading patterns

In a written pattern a character stands for itself, but for the signs of repetition, choice, grouping,
sets, edges and escape. Letters in an opening parenthesis change how what follows is taken, up to the
end of the group they stand in. A brace has to be escaped, no two groups may have the same name, and
the parts of a pattern may be nested `maxDepth` deep.

Which case and kind a character is of, and where words begin and end, is known for ASCII only. So a
pattern that asks for any of these has to say that it is about ASCII, and sets are then sets of ASCII
characters: they have no complement.
-/

namespace FighterCheck.Pattern

/-- How a pattern is taken. -/
structure Mode where
  /-- letters stand for either case -/
  anyCase : Bool
  /-- edges are those of lines -/
  byLine : Bool
  /-- a point stands for the ends of lines, too -/
  allChars : Bool
  /-- repetition is taken as seldom as can be unless a mark follows -/
  seldom : Bool
  /-- sets are sets of ASCII characters -/
  ascii : Bool
  /-- lines end at carriage returns, too -/
  returns : Bool
  /-- blanks between the parts are passed over, and so are comments -/
  spaced : Bool
  deriving Repr, DecidableEq

namespace Mode

/-- The mode at the beginning. -/
def plain : Mode := ⟨false, false, false, false, false, false, false⟩

/-- The mode knows in which cases characters come if it asks for them. -/
def knowsCase (m : Mode) : Bool := !m.anyCase || m.ascii

/-- A set, in either case if the mode says so. -/
def cased (m : Mode) (s : CharSet) : CharSet := if m.anyCase then .anyCase s else s

/-- A character outside sets, if the mode knows its case. -/
def char? (m : Mode) (c : Char) : Option Pattern :=
  if m.knowsCase then some (.one (m.cased (.single c))) else none

/-- A set or, if that is asked for, its complement, which sets of ASCII characters do not have. -/
def negated? (m : Mode) (negated : Bool) (s : CharSet) : Option CharSet :=
  if !negated then some s else if m.ascii then none else some (.complement s)

/-- Something that has to do with kinds of characters, if the mode is about ASCII. -/
def ofAscii? {α : Type} (m : Mode) (a : α) : Option α := if m.ascii then some a else none

/-- What a point stands for, if the mode is not about ASCII. -/
def point? (m : Mode) : Option CharSet :=
  if m.ascii then none
  else if m.allChars then some .all
  else some (if m.returns then .complement (.union (.single '\n') (.single '\r')) else .withinLine)

/-- The mode after a letter has turned something on or off. -/
def set? (m : Mode) (on : Bool) : Char → Option Mode
  | 'i' => some { m with anyCase := on }
  | 'm' => some { m with byLine := on }
  | 's' => some { m with allChars := on }
  | 'U' => some { m with seldom := on }
  | 'u' => some { m with ascii := !on }
  | 'R' => some { m with returns := on }
  | 'x' => some { m with spaced := on }
  | _ => none

end Mode

/-- What follows the blanks and comments at the beginning of a text: a comment goes from a number sign
to the end of its line. `inComment` says whether the text begins in one. -/
def afterBlanks (inComment : Bool) : List Char → List Char
  | [] => []
  | c :: cs =>
    if inComment then afterBlanks (c != '\n') cs
    else if c = '#' then afterBlanks true cs
    else if Text.isBlank c then afterBlanks false cs
    else c :: cs

/-- What follows the blanks and comments that the mode passes over. -/
def Mode.skip (m : Mode) (cs : List Char) : List Char := if m.spaced then afterBlanks false cs else cs

/-- The next sign after a hyphen in a set: beyond blanks and a number sign with blanks after it, if the
mode passes over blanks. -/
def Mode.signAfter (m : Mode) (cs : List Char) : Option Char :=
  if m.spaced then
    match cs.dropWhile Text.isBlank with
    | '#' :: cs => (cs.dropWhile Text.isBlank).head?
    | cs => cs.head?
  else cs.head?

/-! ## Escapes -/

/-- What an escape stands for. -/
inductive Escaped where
  /-- a character -/
  | char (c : Char)
  /-- a set of characters -/
  | set (s : CharSet)
  /-- an edge -/
  | edge (e : Edge)
  deriving Repr, DecidableEq

/-- The value of a digit to base sixteen. -/
def hexValue? (c : Char) : Option Nat :=
  if c.isDigit then some (c.toNat - '0'.toNat)
  else if 'a' ≤ c ∧ c ≤ 'f' then some (c.toNat - 'a'.toNat + 10)
  else if 'A' ≤ c ∧ c ≤ 'F' then some (c.toNat - 'A'.toNat + 10)
  else none

/-- A number written as so many digits to base sixteen, after digits of the value `n`. -/
def readHex (m : Mode) : (digits : Nat) → (n : Nat) → List Char → Option (Nat × List Char)
  | 0, n, cs => some (n, cs)
  | digits + 1, n, cs =>
    match m.skip cs with
    | [] => none
    | c :: cs => (hexValue? c).bind fun d => readHex m digits (16 * n + d) cs

/-- A character written as so many digits to base sixteen. -/
def readCode (m : Mode) (digits : Nat) (cs : List Char) : Option (Char × List Char) :=
  (readHex m digits 0 cs).bind fun (n, cs) =>
    if n.isValidChar then some (Char.ofNat n, cs) else none

/-- The character may be escaped to stand for itself. -/
def isEscapable (c : Char) : Bool :=
  c.toNat < 0x80 && !c.isAlphanum && c != '<' && c != '>'

/-- An escape, after its backslash. Two digits stand for an octet, which is a character of its own only
in ASCII if the mode is about ASCII. -/
def readEscape (m : Mode) : List Char → Option (Escaped × List Char)
  | [] => none
  | c :: cs =>
    let char (read : Char × List Char) : Escaped × List Char := (.char read.1, read.2)
    match c with
    | 'd' => m.ofAscii? (.set .digits, cs)
    | 's' => m.ofAscii? (.set .blanks, cs)
    | 'w' => m.ofAscii? (.set .words, cs)
    | 'b' => m.ofAscii? (.edge .wordEdge, cs)
    | 'B' => m.ofAscii? (.edge .noWordEdge, cs)
    | '<' => m.ofAscii? (.edge .wordStart, cs)
    | '>' => m.ofAscii? (.edge .wordEnd, cs)
    | 'A' => some (.edge .textStart, cs)
    | 'z' => some (.edge .textEnd, cs)
    | 'n' => some (.char '\n', cs)
    | 't' => some (.char '\t', cs)
    | 'r' => some (.char '\r', cs)
    | 'f' => some (.char '\x0c', cs)
    | 'v' => some (.char '\x0b', cs)
    | 'a' => some (.char '\x07', cs)
    | 'x' => ((readCode m 2 cs).filter fun (c, _) => !m.ascii || c.toNat < 0x80).map char
    | 'u' => (readCode m 4 cs).map char
    | 'U' => (readCode m 8 cs).map char
    | _ => if isEscapable c then some (.char c, cs) else none

/-! ## Sets -/

/-- A set that has been read, and how deep the sets in it are nested. -/
structure SetPart where
  /-- the set -/
  set : CharSet
  /-- how deep sets are nested in it -/
  depth : Nat
  deriving Repr, DecidableEq

namespace SetPart

/-- Several members of a set together. -/
def union : List SetPart → SetPart
  | [] => ⟨.empty, 0⟩
  | [p] => p
  | ps => ⟨ps.foldl (fun s p => .union s p.set) .empty, 1 + (ps.map (·.depth)).foldl max 0⟩

/-- An operation on two sets. -/
def operate (f : CharSet → CharSet → CharSet) (a b : SetPart) : SetPart :=
  ⟨f a.set b.set, 1 + max a.depth b.depth⟩

/-- The set in either case if the mode says so. -/
def cased (m : Mode) (p : SetPart) : SetPart := { p with set := m.cased p.set }

/-- The set in brackets, as it is or negated. -/
def bracketed? (m : Mode) (negated : Bool) (p : SetPart) : Option SetPart :=
  (m.negated? negated p.set).map fun s => ⟨s, p.depth + 1⟩

end SetPart

/-- A character or kind of characters inside brackets. -/
def readMember (m : Mode) (cs : List Char) : Option (Escaped × List Char) :=
  let member := match cs with
    | [] => none
    | '\\' :: cs => readEscape m cs
    | c :: cs => some (.char c, cs)
  member.filter fun
    | (.char c, _) => !m.ascii || c.toNat < 0x80
    | _ => true

/-- A character, a kind or a range of characters inside brackets. -/
def readRange (m : Mode) (cs : List Char) : Option (CharSet × List Char) :=
  let alone (e : Escaped) (cs : List Char) : Option (CharSet × List Char) :=
    match e with
    | .char c => some (.single c, cs)
    | .set s => some (s, cs)
    | .edge _ => none
  (readMember m cs).bind fun (e, cs) =>
    match m.skip cs with
    | '-' :: after =>
      if m.signAfter after = some ']' ∨ m.signAfter after = some '-' then alone e ('-' :: after)
      else match e, readMember m (m.skip after) with
        | .char a, some (.char b, cs) =>
          if a ≤ b then some (.ranges [⟨a.toNat, b.toNat⟩], cs) else none
        | _, _ => none
    | cs => alone e cs

/-- A kind of characters by its name between colons, after the bracket that opens it; the set is to be
negated after a circumflex. -/
def readNamed : List Char → Option (Bool × CharSet × List Char)
  | ':' :: cs =>
    let (negated, cs) := match cs with
      | '^' :: cs => (true, cs)
      | cs => (false, cs)
    match cs.dropWhile (· ≠ ':') with
    | ':' :: ']' :: rest =>
      (CharSet.ofName? (String.ofList (cs.takeWhile (· ≠ ':')))).map fun s => (negated, s, rest)
    | _ => none
  | _ => none

/-- An operation between two sets inside brackets. -/
def readOperation : List Char → Option ((CharSet → CharSet → CharSet) × List Char)
  | '&' :: '&' :: cs => some (.inter, cs)
  | '-' :: '-' :: cs => some (.diff, cs)
  | '~' :: '~' :: cs => some (.symmDiff, cs)
  | _ => none

/-- Whether a set is to be negated, and what follows, after the bracket that opens it. -/
def readNegation (m : Mode) (cs : List Char) : Bool × List Char :=
  match m.skip cs with
  | '^' :: cs => (true, cs)
  | cs => (false, cs)

/-- The rest of a set, up to the bracket that closes it. At its start, hyphens and then a closing bracket
that is not after one stand for themselves. `operation` waits for the members that are being read, of
which `members` are there; `fuel` bounds the depth and number of them. -/
def readSet (m : Mode) : (fuel : Nat) → (atStart : Bool) → (operation : SetPart → SetPart) →
    (members : List SetPart) → List Char → Option (SetPart × List Char)
  | 0, _, _, _, _ => none
  | fuel + 1, atStart, operation, members, cs =>
    let add (atStart : Bool) (p : SetPart) (cs : List Char) :=
      readSet m fuel atStart operation (members ++ [p]) cs
    let addSet (atStart : Bool) (s : CharSet) (cs : List Char) :=
      if m.knowsCase then add atStart ⟨s, 0⟩ cs else none
    let whole := (SetPart.union members).cased m
    match m.skip cs with
    | [] => none
    | c :: cs =>
      if atStart ∧ c = '-' then addSet true (.single '-') cs
      else if atStart ∧ members = [] ∧ c = ']' then addSet false (.single ']') cs
      else if c = ']' then some (operation whole, cs)
      else if c = '[' then
        match readNamed cs with
        | some (negated, s, cs) => (m.negated? negated s).bind (addSet false · cs)
        | none =>
          let (negated, cs) := readNegation m cs
          match readSet m fuel true id [] cs with
          | some (p, cs) => (p.bracketed? m negated).bind (add false · cs)
          | none => none
      else match readOperation (c :: cs) with
        | some (f, cs) => readSet m fuel false (.operate f (operation whole)) [] cs
        | none =>
          match readRange m (c :: cs) with
          | some (s, cs) => addSet false s cs
          | none => none

/-! ## Patterns -/

/-- A part of a pattern that has been read. -/
structure Part where
  /-- the part as a pattern -/
  pattern : Pattern
  /-- how deep parts are nested in it -/
  depth : Nat
  /-- the names of the groups in it -/
  names : List String
  deriving Repr, DecidableEq

namespace Part

/-- A part with no parts in it. -/
def simple (p : Pattern) : Part := ⟨p, 0, []⟩

/-- A part around another. -/
def around (f : Pattern → Pattern) (p : Part) : Part := ⟨f p.pattern, p.depth + 1, p.names⟩

/-- Several parts joined into one, unless there is just one. -/
def join (f : List Pattern → Pattern) : List Part → Part
  | [] => simple .empty
  | [p] => p
  | ps => ⟨f (ps.map (·.pattern)), 1 + (ps.map (·.depth)).foldl max 0, ps.flatMap (·.names)⟩

/-- One part after another. -/
def sequence : List Part → Part := join fun ps => ps.foldl followedBy .empty

/-- One part or else the next. -/
def choice : List Part → Part := join fun ps =>
  ps.tail.foldl Pattern.choice (ps.headD .empty)

end Part

/-- A part of one character, set or edge. -/
def readAtom (m : Mode) : List Char → Option (Part × List Char)
  | [] => none
  | '.' :: cs => m.point?.map fun s => (.simple (.one s), cs)
  | '^' :: cs => some (.simple (.edge (if m.byLine then .lineStart m.returns else .textStart)), cs)
  | '$' :: cs => some (.simple (.edge (if m.byLine then .lineEnd m.returns else .textEnd)), cs)
  | '\\' :: cs =>
    (readEscape m cs).bind fun
      | (.char c, cs) => (m.char? c).map fun p => (.simple p, cs)
      | (.set s, cs) => some (.simple (.one s), cs)
      | (.edge e, cs) => some (.simple (.edge e), cs)
  | '[' :: cs =>
    let (negated, cs) := readNegation m cs
    (readSet m (cs.length + 1) true id [] cs).bind fun (p, cs) =>
      (p.bracketed? m negated).map fun p => (⟨.one p.set, p.depth, []⟩, cs)
  | c :: cs =>
    if c = '*' ∨ c = '+' ∨ c = '?' ∨ c = '\x7b' then none
    else (m.char? c).map fun p => (.simple p, cs)

/-- A part with the signs of repetition after it; `fuel` bounds their number. -/
def readRepetition (m : Mode) : (fuel : Nat) → Part → List Char → Option (Part × List Char)
  | 0, _, _ => none
  | fuel + 1, p, cs =>
    let repeated (f : Bool → Pattern → Pattern) (cs : List Char) :=
      match cs with
      | '?' :: cs => readRepetition m fuel (p.around (f m.seldom)) cs
      | cs => readRepetition m fuel (p.around (f !m.seldom)) cs
    match m.skip cs with
    | '*' :: cs => repeated (fun greedy p => p.many greedy) cs
    | '+' :: cs => repeated (fun greedy p => .repeated p greedy) cs
    | '?' :: cs => repeated (fun greedy p => p.optional greedy) cs
    | '\x7b' :: _ => none
    | cs => some (p, cs)

/-- The letters of a mode after an opening parenthesis and a question mark, and the sign that ends
them; `seen` are those that have been read, `on` says whether they turn something on. -/
def readMode (m : Mode) (on : Bool) (seen : List Char) : List Char → Option (Mode × Char × List Char)
  | [] => none
  | c :: cs =>
    if c = ':' ∨ c = ')' then
      if seen.head?.all (· == '-') && (seen ≠ [] || c = ')') then none else some (m, c, cs)
    else if seen.contains c then none
    else if c = '-' then readMode m false (c :: seen) cs
    else match m.set? on c with
      | some m => readMode m on (c :: seen) cs
      | none => none

/-- The name of a group and what follows it. -/
def readName (cs : List Char) : Option (String × List Char) :=
  let isLetter (c : Char) : Bool := c = '_' || Text.inRanges Text.alphabeticRanges c
  let isPart (c : Char) : Bool :=
    c = '_' || c = '.' || c = '[' || c = ']' || Text.isAlphanumeric c
  match cs.dropWhile isPart with
  | '>' :: rest =>
    if cs.head?.any isLetter then some (String.ofList (cs.takeWhile isPart), rest) else none
  | _ => none

/-- What an opening parenthesis begins. -/
inductive Opening where
  /-- a group in a mode of its own, which may have a name -/
  | group (m : Mode) (name : Option String)
  /-- nothing: the mode of what follows changes -/
  | mode (m : Mode)
  deriving Repr, DecidableEq

/-- What an opening parenthesis begins, and what follows. -/
def readOpening (m : Mode) (cs : List Char) : Option (Opening × List Char) :=
  let named (cs : List Char) : Option (Opening × List Char) :=
    (readName cs).map fun (name, cs) => (.group m (some name), cs)
  match m.skip cs with
  | '?' :: 'P' :: '<' :: cs => named cs
  | '?' :: '<' :: cs => named cs
  | '?' :: cs =>
    (readMode m true [] cs).map fun (m, c, cs) => (if c = ':' then .group m none else .mode m, cs)
  | cs => some (.group m none, cs)

/-- The text begins with a sign of repetition. -/
def startsRepetition : List Char → Bool
  | c :: _ => c = '*' || c = '+' || c = '?' || c = '\x7b'
  | [] => false

/-- The rest of a group, up to the parenthesis that closes it or the end: `choices` are those before,
`parts` what has been read of the present one; `fuel` bounds the depth and number of the parts. -/
def readChoices : (fuel : Nat) → Mode → (choices parts : List Part) → List Char →
    Option (Part × List Char)
  | 0, _, _, _, _ => none
  | fuel + 1, m, choices, parts, cs =>
    let chosen := choices ++ [.sequence parts]
    let add (read : Option (Part × List Char)) :=
      match read.bind fun (p, cs) => readRepetition m (cs.length + 1) p cs with
      | some (p, cs) => readChoices fuel m choices (parts ++ [p]) cs
      | none => none
    match m.skip cs with
    | [] => some (.choice chosen, [])
    | ')' :: cs => some (.choice chosen, ')' :: cs)
    | '|' :: cs => readChoices fuel m chosen [] cs
    | '(' :: cs =>
      match readOpening m cs with
      | some (.group inner name, cs) =>
        match readChoices fuel inner [] [] cs with
        | some (p, ')' :: cs) =>
          add (some ({ p with depth := p.depth + 1, names := name.toList ++ p.names }, cs))
        | _ => none
      | some (.mode m, cs) =>
        if startsRepetition (m.skip cs) then none
        else readChoices fuel m choices (parts ++ [.simple .empty]) cs
      | none => none
    | cs => add (readAtom m cs)

/-- How deep the parts of a pattern may be nested. -/
def maxDepth : Nat := 250

/-- The pattern that a text writes, if it writes one. -/
def read? (text : String) : Option Pattern :=
  let cs := text.toList
  match readChoices (cs.length + 1) .plain [] [] cs with
  | some (p, []) => if p.depth ≤ maxDepth ∧ p.names.Nodup then some p.pattern else none
  | _ => none

end FighterCheck.Pattern
