import FighterCheck.Text.Lowercase

/-!
# Documents of sections

A document is a list of sections and a section a list of entries; duplicate names and duplicate keys
are all kept, in order. Names and keys are kept in lower case, and every query lowers the name or key
that it is asked for, so that queries do not depend on case.
-/

namespace FighterCheck.Ini

/-- One `key = value` line. -/
structure Entry where
  /-- the key, in lower case -/
  key : String
  /-- the value as written, without blanks around it and without a comment -/
  value : String
  deriving Repr, DecidableEq

/-- A header and the entries that follow it. -/
structure Section where
  /-- the text between the brackets of the header, in lower case -/
  name : String
  /-- how many sections stand before this one in its document -/
  position : Nat
  /-- the entries, in order -/
  entries : List Entry
  deriving Repr, DecidableEq

/-- The sections of a text, in order. -/
structure Document where
  /-- the sections -/
  sections : List Section
  deriving Repr, DecidableEq

namespace Section

/-- The values stored under a key, in order. -/
def valuesOf (s : Section) (key : String) : List String :=
  (s.entries.filter (·.key == Text.lowercase key)).map Entry.value

/-- The first value stored under a key. -/
def value? (s : Section) (key : String) : Option String :=
  (s.entries.find? (·.key == Text.lowercase key)).map Entry.value

/-- Some value is stored under the key. -/
def hasKey (s : Section) (key : String) : Bool := (s.value? key).isSome

/-- The keys of the entries, in order. -/
def keys (s : Section) : List String := s.entries.map Entry.key

/-- The first value under a key is the head of all values under it. -/
theorem head?_valuesOf (s : Section) (key : String) :
    (s.valuesOf key).head? = s.value? key := by
  simp [valuesOf, value?, List.head?_map, List.head?_filter]

end Section

namespace Document

/-- The sections of a name, in order. -/
def sectionsNamed (d : Document) (name : String) : List Section :=
  d.sections.filter (·.name == Text.lowercase name)

/-- The first section of a name. -/
def sectionNamed? (d : Document) (name : String) : Option Section :=
  d.sections.find? (·.name == Text.lowercase name)

/-- The section at a position. -/
def sectionAt? (d : Document) (position : Nat) : Option Section := d.sections[position]?

/-- The section after a section of the document. -/
def sectionAfter? (d : Document) (s : Section) : Option Section := d.sectionAt? (s.position + 1)

/-- The first value under a key in the first section of a name. -/
def value? (d : Document) (name key : String) : Option String :=
  (d.sectionNamed? name).bind (·.value? key)

/-- The first value under a key in the first section of a name, or `fallback` without such. -/
def valueOr (d : Document) (name key fallback : String) : String :=
  (d.value? name key).getD fallback

/-- The first section of a name is the head of all sections of it. -/
theorem head?_sectionsNamed (d : Document) (name : String) :
    (d.sectionsNamed name).head? = d.sectionNamed? name := by
  simp [sectionsNamed, sectionNamed?, List.head?_filter]

end Document

end FighterCheck.Ini
