import FighterCheck.Json.Value

/-!
# Writing JSON

In a text, the quote, the backslash and the controls are escaped and all else stands as it is. The
compact form has no blanks; the laid-out form gives each item and each member a line of its own,
two spaces further in, and keeps empty arrays and objects on one line.
-/

namespace FighterCheck.Json

/-- A digit to base sixteen, in small letters. -/
def hexDigit (n : Nat) : Char := Nat.digitChar (n % 16)

/-- The form of a character inside a text. -/
def escapeChar (c : Char) : List Char :=
  if c = '"' then ['\\', '"']
  else if c = '\\' then ['\\', '\\']
  else if c = '\x08' then ['\\', 'b']
  else if c = '\x0c' then ['\\', 'f']
  else if c = '\n' then ['\\', 'n']
  else if c = '\r' then ['\\', 'r']
  else if c = '\t' then ['\\', 't']
  else if c.toNat < 0x20 then
    ['\\', 'u', '0', '0', hexDigit (c.toNat / 16), hexDigit c.toNat]
  else [c]

/-- A text between quotes. -/
def showString (s : String) : String :=
  String.ofList ('"' :: (s.toList.flatMap escapeChar ++ ['"']))

mutual

/-- The value without blanks. -/
def compact : Json → String
  | .null => "null"
  | .bool true => "true"
  | .bool false => "false"
  | .number literal => literal
  | .string s => showString s
  | .unpaired => "null"
  | .array items => "[" ++ ",".intercalate (compactItems items) ++ "]"
  | .object members => "\x7b" ++ ",".intercalate (compactMembers members) ++ "\x7d"

/-- The items of an array without blanks. -/
def compactItems : List Json → List String
  | [] => []
  | v :: vs => compact v :: compactItems vs

/-- The members of an object without blanks. -/
def compactMembers : List (String × Json) → List String
  | [] => []
  | (name, v) :: ms => (showString name ++ ":" ++ compact v) :: compactMembers ms

end

/-- A line break and the blanks of so many levels. -/
def lineStart (level : Nat) : String :=
  String.ofList ('\n' :: List.replicate (2 * level) ' ')

/-- The parts on lines of their own between the brackets. -/
def enclose (opening closing : String) (level : Nat) (parts : List String) : String :=
  if parts.isEmpty then opening ++ closing
  else
    opening ++ ",".intercalate (parts.map (lineStart (level + 1) ++ ·)) ++ lineStart level ++ closing

mutual

/-- The value laid out on lines, at a level of indentation. -/
def laidOut (level : Nat) : Json → String
  | .null => "null"
  | .bool true => "true"
  | .bool false => "false"
  | .number literal => literal
  | .string s => showString s
  | .unpaired => "null"
  | .array items => enclose "[" "]" level (laidOutItems (level + 1) items)
  | .object members => enclose "\x7b" "\x7d" level (laidOutMembers (level + 1) members)

/-- The items of an array laid out on lines. -/
def laidOutItems (level : Nat) : List Json → List String
  | [] => []
  | v :: vs => laidOut level v :: laidOutItems level vs

/-- The members of an object laid out on lines. -/
def laidOutMembers (level : Nat) : List (String × Json) → List String
  | [] => []
  | (name, v) :: ms => (showString name ++ ": " ++ laidOut level v) :: laidOutMembers level ms

end

end FighterCheck.Json
