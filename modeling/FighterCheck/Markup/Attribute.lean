import FighterCheck.Markup.Tag
import FighterCheck.Text.Integer

/-!
# Attributes

After its name, a tag lists attributes: a name, an equals sign, and a value in quotes. No element has
an attribute twice. Five names and the numbers of characters can be referred to in a value; every
other reference is a fault. A colon in a name ends the name of its space, which is not kept.
-/

namespace FighterCheck.Markup

/-- The name without that of its space. -/
def localName (name : List Char) : List Char :=
  match Text.cut (· = ':') name with
  | some (_, _, rest) => rest
  | none => name

/-- The value of a digit to the base, ten or sixteen. -/
def digit? (base : Nat) (c : Char) : Option Nat :=
  if c.isDigit then some (c.toNat - '0'.toNat)
  else if base = 16 ∧ 'a' ≤ c ∧ c ≤ 'f' then some (c.toNat - 'a'.toNat + 10)
  else if base = 16 ∧ 'A' ≤ c ∧ c ≤ 'F' then some (c.toNat - 'A'.toNat + 10)
  else none

/-- The number that digits stand for; there is at least one. -/
def number? (base : Nat) (cs : List Char) : Option Nat :=
  if cs.isEmpty then none
  else cs.foldl (fun n c => do pure ((← n) * base + (← digit? base c))) (some 0)

/-- The character of a code point other than zero. -/
def character? (n : Nat) : Option Char :=
  if n ≠ 0 ∧ n.isValidChar then some (Char.ofNat n) else none

/-- The character that a reference stands for, given what stands between its marks. -/
def referenced? : List Char → Option Char
  | ['a', 'm', 'p'] => some '&'
  | ['l', 't'] => some '<'
  | ['g', 't'] => some '>'
  | ['a', 'p', 'o', 's'] => some '\''
  | ['q', 'u', 'o', 't'] => some '"'
  | '#' :: 'x' :: cs => (number? 16 cs).bind character?
  | '#' :: cs => (number? 10 cs).bind character?
  | _ => none

/-- The text of a value with its references resolved; `pending` is the reference that has begun. -/
def resolve : (pending : Option (List Char)) → List Char → Except Fault (List Char)
  | none, [] => .ok []
  | some name, [] => .error (.unknownReference (String.ofList name))
  | none, c :: cs =>
    if c = '&' then resolve (some []) cs
    else match resolve none cs with
      | .ok rest => .ok (c :: rest)
      | .error e => .error e
  | some name, c :: cs =>
    if c = ';' then
      match referenced? name with
      | none => .error (.unknownReference (String.ofList name))
      | some d =>
        match resolve none cs with
        | .ok rest => .ok (d :: rest)
        | .error e => .error e
    else if c = '&' then .error (.unknownReference (String.ofList name))
    else resolve (some (name ++ [c])) cs

/-- The name of the attribute that begins with `first`, and what follows its equals sign. -/
def attributeName (first : Char) (cs : List Char) : Except Fault (List Char × List Char) :=
  match Text.cut (fun c => c = '=' || isSpace c) cs with
  | none => .error .missingEquals
  | some (more, '=', rest) => .ok (first :: more, rest)
  | some (more, _, rest) =>
    match rest.dropWhile isSpace with
    | '=' :: rest => .ok (first :: more, rest)
    | _ => .error .missingEquals

/-- The value in quotes after an equals sign, and what follows it. -/
def attributeValue (cs : List Char) : Except Fault (List Char × List Char) :=
  match cs.dropWhile isSpace with
  | [] => .error .missingValue
  | q :: cs =>
    if q = '"' ∨ q = '\'' then
      match Text.cut (· = q) cs with
      | some (value, _, rest) => .ok (value, rest)
      | none => .error .unclosedValue
    else .error .unquotedValue

/-- The attributes listed in a text, by full name and with resolved values; `seen` holds the names
that came before. `fuel` bounds their number. -/
def attributes : (fuel : Nat) → (seen : List (List Char)) → List Char →
    Except Fault (List (List Char × List Char))
  | 0, _, _ => .ok []
  | fuel + 1, seen, cs =>
    match cs.dropWhile isSpace with
    | [] => .ok []
    | first :: cs => do
      let (name, rest) ← attributeName first cs
      if seen.contains name then throw (.repeatedAttribute (String.ofList name))
      let (raw, rest) ← attributeValue rest
      let value ← resolve none raw
      let others ← attributes fuel (name :: seen) rest
      pure ((name, value) :: others)

end FighterCheck.Markup
