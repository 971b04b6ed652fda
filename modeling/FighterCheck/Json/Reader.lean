import FighterCheck.Json.Value

/-!
# Reading JSON

A text is first cut into tokens, blanks between them being dropped, and the tokens are then read as
one value with nothing after it. Texts hold no bare controls, escapes name UTF-16 units, and two
units that form a surrogate pair make one character.
-/

namespace FighterCheck.Json

/-- The smallest parts of a JSON text. -/
inductive Token where
  /-- a bracket, a brace, a comma or a colon -/
  | mark (c : Char)
  /-- a text; nothing if it escapes half of a surrogate pair -/
  | text (s : Option String)
  /-- a number as it is written -/
  | number (literal : String)
  /-- a run of letters -/
  | word (s : String)
  deriving Repr, DecidableEq

/-- The value of a digit to base sixteen. -/
def hexValue? (c : Char) : Option Nat :=
  if c.isDigit then some (c.toNat - '0'.toNat)
  else if 'a' ≤ c ∧ c ≤ 'f' then some (c.toNat - 'a'.toNat + 10)
  else if 'A' ≤ c ∧ c ≤ 'F' then some (c.toNat - 'A'.toNat + 10)
  else none

/-- The UTF-16 unit of four digits. -/
def unit? (a b c d : Char) : Option Nat := do
  pure ((((← hexValue? a) * 16 + (← hexValue? b)) * 16 + (← hexValue? c)) * 16 + (← hexValue? d))

/-- The character of an escape of one letter. -/
def escaped? (c : Char) : Option Char :=
  if c = '"' ∨ c = '\\' ∨ c = '/' then some c
  else if c = 'b' then some '\x08'
  else if c = 'f' then some '\x0c'
  else if c = 'n' then some '\n'
  else if c = 'r' then some '\r'
  else if c = 't' then some '\t'
  else none

/-- The code points and surrogates of a text up to its closing quote, and what follows. -/
def scanText : List Char → Option (List Nat × List Char)
  | [] => none
  | '"' :: cs => some ([], cs)
  | '\\' :: 'u' :: a :: b :: c :: d :: cs =>
    match unit? a b c d with
    | none => none
    | some u => (scanText cs).map fun (us, rest) => (u :: us, rest)
  | '\\' :: e :: cs =>
    match escaped? e with
    | none => none
    | some c => (scanText cs).map fun (us, rest) => (c.toNat :: us, rest)
  | c :: cs =>
    if c = '\\' ∨ c.toNat < 0x20 then none
    else (scanText cs).map fun (us, rest) => (c.toNat :: us, rest)

/-- The characters of code points and surrogates; nothing if a surrogate stands alone. -/
def joinSurrogates : (pending : Option Nat) → List Nat → Option (List Char)
  | none, [] => some []
  | some _, [] => none
  | none, u :: us =>
    if 0xD800 ≤ u ∧ u < 0xDC00 then joinSurrogates (some u) us
    else if 0xDC00 ≤ u ∧ u < 0xE000 then none
    else (joinSurrogates none us).map (Char.ofNat u :: ·)
  | some h, u :: us =>
    if 0xDC00 ≤ u ∧ u < 0xE000 then
      (joinSurrogates none us).map (Char.ofNat (0x10000 + (h - 0xD800) * 0x400 + (u - 0xDC00)) :: ·)
    else none

/-- A character of a number. -/
def isNumberChar (c : Char) : Bool :=
  c.isDigit || c = '-' || c = '+' || c = '.' || c = 'e' || c = 'E'

/-- The text of one or more digits. -/
def isDigits (cs : List Char) : Bool := !cs.isEmpty && cs.all Char.isDigit

/-- An exponent: nothing, or `e` with an optional sign and digits. -/
def isExponent : List Char → Bool
  | [] => true
  | c :: cs =>
    (c = 'e' || c = 'E') &&
      match cs with
      | '+' :: ds => isDigits ds
      | '-' :: ds => isDigits ds
      | ds => isDigits ds

/-- What may follow the whole part of a number: a fraction and an exponent. -/
def isFraction : List Char → Bool
  | '.' :: cs =>
    isDigits (cs.takeWhile Char.isDigit) && isExponent (cs.dropWhile Char.isDigit)
  | cs => isExponent cs

/-- A number without a sign: its whole part is zero or begins with another digit. -/
def isUnsigned : List Char → Bool
  | '0' :: cs => isFraction cs
  | c :: cs => c.isDigit && isFraction (cs.dropWhile Char.isDigit)
  | [] => false

/-- The form of a number. -/
def isNumber : List Char → Bool
  | '-' :: cs => isUnsigned cs
  | cs => isUnsigned cs

/-- The tokens of a text; `fuel` bounds their number. -/
def tokens : (fuel : Nat) → List Char → Option (List Token)
  | _, [] => some []
  | 0, _ :: _ => none
  | fuel + 1, c :: cs =>
    if c = ' ' ∨ c = '\n' ∨ c = '\r' ∨ c = '\t' then tokens fuel cs
    else if c = '[' ∨ c = ']' ∨ c = '\x7b' ∨ c = '\x7d' ∨ c = ',' ∨ c = ':' then
      (tokens fuel cs).map (.mark c :: ·)
    else if c = '"' then
      match scanText cs with
      | none => none
      | some (us, rest) =>
        (tokens fuel rest).map (.text ((joinSurrogates none us).map String.ofList) :: ·)
    else if c.isDigit ∨ c = '-' then
      let literal := c :: cs.takeWhile isNumberChar
      if isNumber literal then
        (tokens fuel (cs.dropWhile isNumberChar)).map (.number (String.ofList literal) :: ·)
      else none
    else if c.isAlpha then
      (tokens fuel (cs.dropWhile Char.isAlpha)).map
        (.word (String.ofList (c :: cs.takeWhile Char.isAlpha)) :: ·)
    else none

/-- An object of these members, each name being one that can be read. -/
def ofMembers (ms : List (Option String × Json)) : Json :=
  if ms.all (·.1.isSome) then .object (ms.map fun (name, v) => (name.getD "", v)) else .unpaired

mutual

/-- The value at the beginning of the tokens, and what follows; `fuel` bounds the depth and length
of the value. -/
def readValue : (fuel : Nat) → List Token → Option (Json × List Token)
  | 0, _ => none
  | _ + 1, [] => none
  | fuel + 1, t :: ts =>
    match t with
    | .word "null" => some (.null, ts)
    | .word "true" => some (.bool true, ts)
    | .word "false" => some (.bool false, ts)
    | .number literal => some (.number literal, ts)
    | .text (some s) => some (.string s, ts)
    | .text none => some (.unpaired, ts)
    | .mark '[' =>
      match ts with
      | .mark ']' :: ts => some (.array [], ts)
      | ts => (readItems fuel ts).map fun (vs, ts) => (.array vs, ts)
    | .mark '\x7b' =>
      match ts with
      | .mark '\x7d' :: ts => some (.object [], ts)
      | ts => (readMembers fuel ts).map fun (ms, ts) => (ofMembers ms, ts)
    | _ => none

/-- The items up to the bracket that closes their array, and what follows. -/
def readItems : (fuel : Nat) → List Token → Option (List Json × List Token)
  | 0, _ => none
  | fuel + 1, ts =>
    match readValue fuel ts with
    | some (v, .mark ',' :: ts) => (readItems fuel ts).map fun (vs, ts) => (v :: vs, ts)
    | some (v, .mark ']' :: ts) => some ([v], ts)
    | _ => none

/-- The members up to the brace that closes their object, and what follows. -/
def readMembers : (fuel : Nat) → List Token → Option (List (Option String × Json) × List Token)
  | 0, _ => none
  | fuel + 1, ts =>
    match ts with
    | .text name :: .mark ':' :: ts =>
      match readValue fuel ts with
      | some (v, .mark ',' :: ts) =>
        (readMembers fuel ts).map fun (ms, ts) => ((name, v) :: ms, ts)
      | some (v, .mark '\x7d' :: ts) => some ([(name, v)], ts)
      | _ => none
    | _ => none

end

/-- The value that a text holds. -/
def read? (text : String) : Option Json :=
  match tokens text.length text.toList with
  | none => none
  | some ts =>
    match readValue (2 * ts.length + 1) ts with
    | some (v, []) => some v
    | _ => none

end FighterCheck.Json
