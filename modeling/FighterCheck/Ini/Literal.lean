import FighterCheck.Ini.Error

/-!
# Quoted values

A quoted value is the text between the first two double quotes; whatever stands before or after them
is dropped.
-/

namespace FighterCheck.Ini

/-- The text between the first two quotes. -/
def betweenQuotes? (cs : List Char) : Option (List Char) :=
  match Text.cut (· = '"') cs with
  | none => none
  | some (_, _, rest) => (Text.cut (· = '"') rest).map (·.1)

/-- The text that a quoted value stands for. -/
def unquote (value : String) : Except Error String :=
  match betweenQuotes? value.toList with
  | some cs => .ok (String.ofList cs)
  | none => .error (.malformedLiteral value)

end FighterCheck.Ini
