import FighterCheck.Text.VisibleTable

/-!
# Quoted text in messages

A message shows a text it complains of between double quotes. Quotes, backslashes and the common
controls are written as an escape of one letter, other characters that would not show, or would join
the one before them, by their code point in braces, and all else as it is.
-/

namespace FighterCheck.Text

/-- The digits of `n` to base sixteen, in small letters. -/
def hexDigits (n : Nat) : List Char := Nat.toDigits 16 n

/-- The character shows on its own: it is neither hidden nor a mark on the character before it. -/
def isVisible (c : Char) : Bool := !inRanges extendingRanges c && !inRanges hiddenRanges c

/-- The form of a character inside a quoted text. -/
def quoteChar (c : Char) : List Char :=
  if c = '\x00' then ['\\', '0']
  else if c = '\t' then ['\\', 't']
  else if c = '\r' then ['\\', 'r']
  else if c = '\n' then ['\\', 'n']
  else if c = '\\' then ['\\', '\\']
  else if c = '"' then ['\\', '"']
  else if isVisible c then [c]
  else ['\\', 'u', '\x7b'] ++ hexDigits c.toNat ++ ['\x7d']

/-- The text between double quotes, with what would not show escaped. -/
def quote (s : String) : String :=
  String.ofList ('"' :: (s.toList.flatMap quoteChar ++ ['"']))

end FighterCheck.Text
