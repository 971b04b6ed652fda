import FighterCheck.Text.Blank
import FighterCheck.Text.Cut
import FighterCheck.Text.Lowercase
import FighterCheck.Ini.Document

/-!
# What a line says

A line is read without the blanks around it. One that begins with `[` is a header, and its name ends
at the first `]`; a header that is not closed is the one thing that makes a text unreadable. Any other
line holds an entry if it has an `=` that no `;` precedes and there is something on both sides of it,
the value ending before the next `;`. All else says nothing.
-/

namespace FighterCheck.Ini

/-- What a line says. -/
inductive Line where
  /-- a header, with its name in lower case -/
  | header (name : String)
  /-- a header without a closing bracket, with the text after the opening one -/
  | unclosed (text : String)
  /-- an entry -/
  | entry (e : Entry)
  /-- nothing: blanks, a comment, or text that is no entry -/
  | nothing
  deriving Repr, DecidableEq

namespace Line

/-- What a line says after its opening bracket. -/
def ofHeader (rest : List Char) : Line :=
  match Text.cut (· = ']') rest with
  | some (name, _, _) => .header (String.ofList (Text.lower name))
  | none => .unclosed (String.ofList rest)

/-- The part of a text before its first semicolon. -/
def beforeComment (cs : List Char) : List Char := cs.takeWhile (· ≠ ';')

/-- What a trimmed line says that does not begin with a bracket. -/
def ofBody (line : List Char) : Line :=
  match Text.cut (fun c => c = '=' || c = ';') line with
  | some (before, '=', after) =>
    let key := Text.trim before
    let value := Text.trim (beforeComment after)
    if key = [] ∨ value = [] then .nothing
    else .entry ⟨String.ofList (Text.lower key), String.ofList value⟩
  | _ => .nothing

/-- What a line says. -/
def read (raw : List Char) : Line :=
  match Text.trim raw with
  | '[' :: rest => ofHeader rest
  | line => ofBody line

end Line

end FighterCheck.Ini
