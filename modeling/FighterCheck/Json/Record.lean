import FighterCheck.Json.Value

/-!
# Records in JSON

A record is written as an object of its fields, or as an array of them in order. Reading takes the
fields of an object by name in any order, refuses a repeated one, and lets unknown members pass; of
an array it takes as many fields as there are items and refuses further items. Whether a field may
be missing is for the record to say. A value of a plain enumeration is its name, or an object whose
one member has that name and is null.
-/

namespace FighterCheck.Json

/-- The values of the named fields, in the order of the names; nothing where a field is missing. -/
def fields? (names : List String) : Json → Option (List (Option Json))
  | .object ms =>
    if names.all fun n => ms.countP (·.1 == n) ≤ 1 then
      some (names.map fun n => ms.lookup n)
    else none
  | .array vs =>
    if vs.length ≤ names.length then
      some (vs.map some ++ List.replicate (names.length - vs.length) none)
    else none
  | _ => none

/-- The name of a value of an enumeration. -/
def variant? : Json → Option String
  | .string s => some s
  | .object [(name, .null)] => some name
  | _ => none

/-- A text. -/
def string? : Json → Option String
  | .string s => some s
  | _ => none

/-- A truth value. -/
def bool? : Json → Option Bool
  | .bool b => some b
  | _ => none

/-- A list, each of whose items is read by `read`. -/
def list? {α : Type} (read : Json → Option α) : Json → Option (List α)
  | .array vs => vs.mapM read
  | _ => none

end FighterCheck.Json
