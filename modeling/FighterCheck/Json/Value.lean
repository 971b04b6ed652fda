/-!
# JSON values

A value keeps the members of an object in order, repeated names included, and a number as it is
written, since nothing here computes with numbers.
-/

namespace FighterCheck

/-- A JSON value. -/
inductive Json where
  /-- the value `null` -/
  | null
  /-- one of `true` and `false` -/
  | bool (b : Bool)
  /-- a number, as it is written -/
  | number (literal : String)
  /-- a text -/
  | string (s : String)
  /-- a text, or an object with a member name, that escapes half of a surrogate pair: it follows
  the grammar but says nothing -/
  | unpaired
  /-- a list of values -/
  | array (items : List Json)
  /-- named values -/
  | object (members : List (String × Json))
  deriving Repr

end FighterCheck
