import FighterCheck.Log.Threshold
import FighterCheck.Pattern.Automaton
import FighterCheck.Pattern.Reader
import FighterCheck.Text.Cut

/-!
# Directives

A directive says how far down events are shown. It may concern the parts of the program whose names
begin with a target, the activities of a name, or the activities and events with a field; of a field
it may ask for a value. In writing, the target comes first, then in brackets the name of the activity
and in braces the field with its value, and after an equals sign the threshold.
-/

namespace FighterCheck.Log

/-! ## Fields -/

/-- What a directive asks of the value of a field. -/
inductive ValueTest where
  /-- a truth value -/
  | bool (b : Bool)
  /-- a number, as it is written -/
  | number (text : String)
  /-- a text that fits a pattern, and how the pattern is written -/
  | pattern (text : String) (p : Pattern)
  deriving Repr, DecidableEq

/-- What a directive asks of a field. -/
structure FieldTest where
  /-- the name of the field -/
  name : String
  /-- what is asked of its value, if anything is -/
  value : Option ValueTest
  deriving Repr, DecidableEq

/-- The digits at the beginning of a text, and the rest. -/
def leadingDigits (cs : List Char) : List Char × List Char :=
  (cs.takeWhile Char.isDigit, cs.dropWhile Char.isDigit)

/-- The text without a sign at its beginning. -/
def withoutSign : List Char → List Char
  | '+' :: cs => cs
  | '-' :: cs => cs
  | cs => cs

/-- The text is a decimal number, which may have a fraction and an exponent, or it names a value that
only a floating-point number can have. -/
def isNumber (cs : List Char) : Bool :=
  let cs := withoutSign cs
  let (whole, rest) := leadingDigits cs
  let (fraction, rest) := match rest with
    | '.' :: rest => leadingDigits rest
    | rest => ([], rest)
  let endsWell := match rest with
    | [] => true
    | e :: rest => (e = 'e' || e = 'E') && (Text.readDigits (withoutSign rest)).isSome
  ["inf", "infinity", "nan"].contains (Text.asciiFold (String.ofList cs)) ||
    (whole ++ fraction ≠ [] && endsWell)

namespace ValueTest

/-- What a text asks of a value; a text that is neither a truth value nor a number is a pattern. -/
def read? (text : String) : Option ValueTest :=
  if text = "true" then some (bool true)
  else if text = "false" then some (bool false)
  else if isNumber text.toList then some (number text)
  else (Pattern.read? text).map (pattern text)

/-- The value is what is asked for. A number asks for a number and a pattern for a text. -/
def accepts : ValueTest → Value → Bool
  | bool b, .bool v => v == b
  | number text, .number n => rank? text.toList == some n
  | pattern _ p, .bare s => p.fits s
  | pattern _ p, .text s => p.fits s
  | _, _ => false

/-- The test as it is written. -/
def text : ValueTest → String
  | bool b => if b then "true" else "false"
  | number s => s
  | pattern s _ => s

end ValueTest

namespace FieldTest

/-- The name of a field, and after an equals sign what is asked of its value; what follows a second
equals sign does not count. -/
def read? (cs : List Char) : Option FieldTest :=
  match Text.split '=' cs with
  | name :: value :: _ =>
    (ValueTest.read? (String.ofList value)).map fun v => ⟨String.ofList name, some v⟩
  | _ => some ⟨String.ofList cs, none⟩

/-- The test as it is written. -/
def text (t : FieldTest) : String :=
  match t.value with
  | none => t.name
  | some v => t.name ++ "=" ++ v.text

/-- One of the fields has the name. -/
def isAmong (t : FieldTest) (fs : Fields) : Bool := fs.any (·.1 == t.name)

/-- The fields pass the test, in which a value need not be asked for. -/
def accepts (t : FieldTest) (fs : Fields) : Bool :=
  fs.any fun (name, v) => name == t.name && t.value.all (·.accepts v)

end FieldTest

/-! ## Directives -/

/-- What is shown of some parts of the program or in some activities. -/
structure Directive where
  /-- what the names of the parts begin with -/
  target : String
  /-- the name of the activities -/
  span : Option String
  /-- a field of the activities and events -/
  field : Option FieldTest
  /-- how far down events are shown -/
  threshold : Threshold
  deriving Repr, DecidableEq

namespace Directive

/-- The directive for some parts of the program and no activity in particular. -/
def ofTarget (target : String) (t : Threshold) : Directive := ⟨target, none, none, t⟩

/-- The directive in words. -/
def text (d : Directive) : String :=
  let field := (d.field.map fun f => "\x7b" ++ f.text ++ "\x7d").getD ""
  let activity :=
    if d.span.isNone && d.field.isNone then "" else "[" ++ d.span.getD "" ++ field ++ "]"
  let place := d.target ++ activity
  if place.isEmpty then thresholdName d.threshold else place ++ "=" ++ thresholdName d.threshold

/-- The directive watches activities. -/
def isWatching (d : Directive) : Bool := d.span.isSome || d.field.isSome

/-- The directive speaks of the parts of the program, whatever goes on in them. -/
def isGeneral (d : Directive) : Bool := d.span.isNone && d.field.all (·.value.isNone)

/-- The directive concerns a part of the program. -/
def concerns (d : Directive) (target : String) : Bool :=
  d.target.toList.isPrefixOf target.toList

/-- The directive watches an activity: its part, its name and the names of its fields are as the
directive says. -/
def watches (d : Directive) (s : Span) : Bool :=
  d.isWatching && d.concerns s.target && d.span.all (· == s.name) && d.field.all (·.isAmong s.fields)

/-- Of two directives the second takes the place of the first. -/
def sameScope (a b : Directive) : Bool :=
  a.target == b.target && a.span == b.span && a.field == b.field

/-! ### Reading -/

/-- What is left of a text after so many octets, if they end between two characters. -/
def dropOctets : (n : Nat) → List Char → Option (List Char)
  | 0, cs => some cs
  | _ + 1, [] => none
  | n + 1, c :: cs => if c.utf8Size ≤ n + 1 then dropOctets (n + 1 - c.utf8Size) cs else none

/-- So many octets of a text, if they end between two characters. -/
def takeOctets : (n : Nat) → List Char → Option (List Char)
  | 0, _ => some []
  | _ + 1, [] => none
  | n + 1, c :: cs =>
    if c.utf8Size ≤ n + 1 then (takeOctets (n + 1 - c.utf8Size) cs).map (c :: ·) else none

/-- The part of a text between two places, counted in octets. -/
def part (cs : List Char) (start stop : Nat) : Option String :=
  ((dropOctets start cs).bind (takeOctets (stop - start))).map String.ofList

/-- Where in a directive one is reading; the parts begin at the places given. -/
inductive Stage where
  /-- before anything -/
  | start
  /-- in a target or a threshold -/
  | target (start : Nat)
  /-- in the name of an activity -/
  | span (start : Nat)
  /-- in a field -/
  | field (start : Nat)
  /-- after a field -/
  | afterField
  /-- after the brackets -/
  | afterSpan
  /-- in a threshold -/
  | threshold (start : Nat)
  deriving Repr, DecidableEq

/-- The character can begin a directive without brackets. -/
def canBegin (c : Char) : Bool := Text.isAlphanumeric c || c = '-' || c = ':' || c = '_'

/-- The next stage after the character `c` at the place `i`, and what is known of the directive then.
The parts are taken from `text`. -/
def next (text : List Char) (i : Nat) (c : Char) (stage : Stage) (d : Directive) :
    Option (Stage × Directive) :=
  match stage with
  | .start =>
    if c = '[' then some (.span (i + 1), d)
    else if canBegin c then some (.target i, d)
    else none
  | .target start =>
    if c = '=' then (part text start i).map fun t => (.threshold (i + 1), { d with target := t })
    else if c = '[' then (part text start i).map fun t => (.span (i + 1), { d with target := t })
    else some (stage, d)
  | .span start =>
    if c = ']' then (part text start i).map fun s => (.afterSpan, { d with span := some s })
    else if c = '\x7b' then
      (part text start i).map fun s =>
        (.field (i + 1), { d with span := if s.isEmpty then none else some s })
    else some (stage, d)
  | .field start =>
    if c = '\x7d' then
      (part text start i).bind fun s =>
        if s.isEmpty then none
        else (FieldTest.read? s.toList).map fun f => (.afterField, { d with field := some f })
    else some (stage, d)
  | .afterField => if c = ']' then some (.afterSpan, d) else none
  | .afterSpan => if c = '=' then some (.threshold (i + 1), d) else none
  | .threshold _ => some (stage, d)

/-- The directive at the end of its text. What is no threshold is a target, all of whose events are
shown; so are all events where a threshold is missing. -/
def finish (text : List Char) (stage : Stage) (d : Directive) : Option Directive :=
  match stage with
  | .target start =>
    (dropOctets start text).map fun cs =>
      match threshold? (String.ofList cs) with
      | some t => { d with threshold := t }
      | none => { d with target := String.ofList cs }
  | .threshold start =>
    (dropOctets start text).bind fun cs =>
      if cs = [] then some d
      else (threshold? (String.ofList cs)).map fun t => { d with threshold := t }
  | .afterSpan => some d
  | _ => none

/-- Reads on from the place `i`. -/
def readFrom (text : List Char) (i : Nat) (stage : Stage) (d : Directive) :
    List Char → Option Directive
  | [] => finish text stage d
  | c :: cs =>
    match next text i c stage d with
    | some (stage, d) => readFrom text (i + c.utf8Size) stage d cs
    | none => none

/-- The directive that a text writes. Blanks around it are passed over in telling its parts apart, but
the places of the parts are counted without those at its beginning. -/
def read? (cs : List Char) : Option Directive :=
  readFrom cs 0 .start (ofTarget "" (some .trace)) (Text.trim cs)

end Directive

end FighterCheck.Log
