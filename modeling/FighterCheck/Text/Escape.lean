import FighterCheck.Text.Cut
import FighterCheck.Text.Width

/-!
# Orders in text

A text may hold orders to the terminal that shows it, such as those for colours. An order begins with
an escape character. What follows says how far it goes: to the next character, past signs to the next
letter, or to a bell or another escape. Orders take no place. A text may end inside an order; if nothing
has been shown since the order before it, then what stands behind the escape is shown after all.

Text that is cut into lines keeps its style: what looks like a style order is repeated at the
beginning of every later line, up to the order that ends all styles, and a line that stands in a style
ends with that order. A style order is known by its first characters alone, so that it may be shorter
than what the terminal takes for one; titles and messages count as style orders, too.
-/

namespace FighterCheck.Text

/-- The character begins an order. -/
def isEscape (c : Char) : Bool := c.toNat = 0x1B

/-! ## What is shown -/

/-- How a terminal takes the next character. -/
inductive Reading where
  /-- as a character to show -/
  | shown
  /-- as the first of an order -/
  | order
  /-- as the next of an order that began with a sign -/
  | orderEnd
  /-- as the next of an order with parameters -/
  | parameters
  /-- as the next of a title -/
  | title
  /-- as the next of what stands before a message -/
  | messageHead
  /-- as the next of a message -/
  | message
  /-- as the next of a remark -/
  | remark
  deriving Repr, DecidableEq

namespace Reading

/-- The character ends any order and is shown. -/
def isCancel (c : Char) : Bool := c.toNat = 0x18 || c.toNat = 0x1A

/-- The last octet of the character in UTF-8 is 9C to base sixteen, which ends a message. -/
def endsMessage (c : Char) : Bool := 0x80 ≤ c.toNat && c.toNat % 0x40 = 0x1C

/-- How the character after `c` is taken. An escape always begins an order. Controls, and characters
outside ASCII, do not count in an order. -/
def next (r : Reading) (c : Char) : Reading :=
  let n := c.toNat
  if isEscape c then .order
  else if isCancel c then .shown
  else match r with
  | .shown => .shown
  | .order =>
    if c = '[' then .parameters
    else if c = ']' then .title
    else if c = 'P' then .messageHead
    else if c = 'X' ∨ c = '^' ∨ c = '_' then .remark
    else if 0x20 ≤ n ∧ n ≤ 0x2F then .orderEnd
    else if 0x30 ≤ n ∧ n ≤ 0x7E then .shown
    else .order
  | .orderEnd => if 0x30 ≤ n ∧ n ≤ 0x7E then .shown else .orderEnd
  | .parameters => if 0x40 ≤ n ∧ n ≤ 0x7E then .shown else .parameters
  | .title => if n = 0x07 then .shown else .title
  | .messageHead => if 0x40 ≤ n ∧ n ≤ 0x7E then .message else .messageHead
  | .message => if endsMessage c then .shown else .message
  | .remark => .remark

/-- The character is shown. Controls inside an order are, but not in texts that belong to it. -/
def shows (r : Reading) (c : Char) : Bool :=
  !isEscape c && (isCancel c || match r with
    | .shown => true
    | .order | .orderEnd | .parameters => c.toNat < 0x20
    | .title | .messageHead | .message | .remark => false)

end Reading

/-- The characters of a text that are shown, the first of which is taken as `r` says. `hidden` is what
is shown if the text ends inside the present order, unless a character has been shown since the order
before it. -/
def shownFrom (r : Reading) (hidden : Option (List Char)) : List Char → List Char
  | [] => hidden.getD []
  | c :: cs =>
    let next := r.next c
    if r.shows c then c :: shownFrom next none cs
    else if isEscape c then shownFrom next (hidden.map fun _ => cs) cs
    else shownFrom next (if next = .shown then some [] else hidden) cs

/-- How many places a text takes on a terminal. -/
def shownWidth (s : String) : Nat :=
  width (String.ofList (shownFrom .shown (some []) s.toList))

/-! ## Style orders -/

/-- How far a style order has been read. -/
inductive StyleStage where
  /-- the escape -/
  | start
  /-- an opening or closing parenthesis -/
  | parenthesis
  /-- several signs -/
  | signs
  /-- so many digits of a number -/
  | digits (count : Nat)
  /-- a semicolon after numbers -/
  | separator
  /-- all of it -/
  | done
  deriving Repr, DecidableEq

namespace StyleStage

/-- The order may end here. -/
def mayEnd : StyleStage → Bool
  | digits _ => true
  | done => true
  | _ => false

/-- The character is one of the letters and signs that end a style order. -/
def isLast (c : Char) : Bool :=
  'A' ≤ c && c ≤ 'P' || 'f' ≤ c && c ≤ 'n' || "RZcqry=><".toList.contains c

/-- How far the order has been read after one more character, if that belongs to it. -/
def next? (stage : StyleStage) (c : Char) : Option StyleStage :=
  let isSign := "[()#;?".toList.contains c
  match stage with
  | done => none
  | start =>
    if c = '(' ∨ c = ')' then some parenthesis
    else if isSign then some signs
    else if c.isDigit then some (digits 1)
    else if isLast c then some done
    else none
  | parenthesis =>
    if isSign then some signs
    else if '0' ≤ c ∧ c ≤ '2' then some done
    else if c.isDigit then some (digits 1)
    else if isLast c then some done
    else none
  | signs =>
    if isSign then some signs
    else if c.isDigit then some (digits 1)
    else if isLast c then some done
    else none
  | digits count =>
    if c = ';' then some separator
    else if c.isDigit then some (if count < 4 then digits (count + 1) else done)
    else if isLast c then some done
    else none
  | separator =>
    if c = ';' then some separator
    else if c.isDigit then some (digits 1)
    else if isLast c then some done
    else none

/-- How many characters are left to the furthest end of the order. -/
def length? (stage : StyleStage) : List Char → Option Nat
  | [] => if stage.mayEnd then some 0 else none
  | c :: cs =>
    match (stage.next? c).bind fun s => s.length? cs with
    | some n => some (n + 1)
    | none => if stage.mayEnd then some 0 else none

end StyleStage

/-- How many characters are left to the end of a title or message: it ends with a bell, with U+009C, with
an escape and a backslash, before any other escape, or with the text. -/
def restOfMessage : List Char → Nat
  | [] => 0
  | c :: cs =>
    if isEscape c then (if cs.head? = some '\\' then 2 else 0)
    else if c.toNat = 0x07 ∨ c.toNat = 0x9C then 1
    else restOfMessage cs + 1

/-- How many characters belong to the style order that begins with `c`, besides `c`. An escape begins
one, and so does U+009B, but only an escape begins a title or a message. -/
def styleLength? (c : Char) (cs : List Char) : Option Nat :=
  match cs with
  | k :: rest =>
    if isEscape c ∧ (k = ']' ∨ k = 'P') then some (restOfMessage rest + 1)
    else if isEscape c ∨ c.toNat = 0x9B then StyleStage.start.length? cs
    else none
  | [] => none

/-- The style orders in a text, of which so many characters belong to an order that has been found. -/
def styleOrders : (found : Nat) → List Char → List (List Char)
  | _, [] => []
  | found + 1, _ :: cs => styleOrders found cs
  | 0, c :: cs =>
    match styleLength? c cs with
    | some n => (c :: cs.take n) :: styleOrders n cs
    | none => styleOrders 0 cs

/-- The order that ends all styles. -/
def plainStyle : List Char := ['\x1b', '[', '0', 'm']

/-- The style orders in force after one more. -/
def stylesAfter (styles : List (List Char)) (order : List Char) : List (List Char) :=
  if order = plainStyle then [] else styles ++ [order]

/-- The lines with the styles of each kept up to its end and taken up again by the next one. -/
def carryStyles : (styles : List (List Char)) → List (List Char) → List (List Char)
  | _, [] => []
  | styles, l :: ls =>
    let after := (styleOrders 0 l).foldl stylesAfter styles
    (styles.flatten ++ l ++ if after = [] then [] else plainStyle) :: carryStyles after ls

/-- The lines of a text, each of them with the styles that it stands in. -/
def styledLines (s : String) : List String :=
  (carryStyles [] (split '\n' s.toList)).map String.ofList

/-- The text with the styles of its lines. -/
def styled (s : String) : String := "\n".intercalate (styledLines s)

end FighterCheck.Text
