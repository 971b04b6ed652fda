import FighterCheck.Ini.Document

/-!
# Writing a document

A section is written as its header and one line for each entry, and a blank line stands between
sections. Comments are not kept.
-/

namespace FighterCheck.Ini

/-- The line of an entry. -/
def Entry.render (e : Entry) : String := e.key ++ " = " ++ e.value ++ "\n"

/-- The lines of a section. -/
def Section.render (s : Section) : String :=
  "[" ++ s.name ++ "]\n" ++ String.join (s.entries.map Entry.render)

/-- The text of a document. -/
def Document.render (d : Document) : String :=
  "\n".intercalate (d.sections.map Section.render)

end FighterCheck.Ini
