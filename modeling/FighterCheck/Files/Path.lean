import FighterCheck.Text.Cut

/-!
# Paths as text

A path is a text of names separated by slashes. Joining puts a slash between two paths where none
stands yet, and the parent of a path is the path without its last name. Both keep the spelling of
what they do not remove.
-/

namespace FighterCheck.Files

/-- The path begins at the root. -/
def isAbsolute (path : String) : Bool := path.toList.head? == some '/'

/-- The path `rest` taken from the directory `base`. A slash is put between them unless `base` is
empty or ends in one; an absolute `rest` stands for itself. -/
def join (base rest : String) : String :=
  if isAbsolute rest then rest
  else if base.isEmpty || base.toList.getLast? == some '/' then base ++ rest
  else base ++ "/" ++ rest

/-- A name that leads nowhere: the one between two slashes, and the single dot. -/
def isIdle (name : List Char) : Bool := name == [] || name == ['.']

/-- The names without the idle ones at their end. -/
def dropIdle (names : List (List Char)) : List (List Char) :=
  (names.reverse.dropWhile isIdle).reverse

/-- The names without the last that is not idle, and without the idle ones before and after it;
nothing if all are idle. -/
def withoutLast (names : List (List Char)) : Option (List (List Char)) :=
  match dropIdle names with
  | [] => none
  | kept => some (dropIdle kept.dropLast)

/-- Names with a slash between neighbours. -/
def joinNames (names : List (List Char)) : String :=
  String.ofList (['/'].intercalate names)

/-- The path without its last name. The root and the empty path have no parent; the parent of a
single name is the empty path. -/
def parent? (path : String) : Option String :=
  match Text.split '/' path.toList with
  | [[]] => none
  | [] :: names => (withoutLast names).map fun kept => "/" ++ joinNames kept
  | first :: names =>
    match withoutLast names with
    | none => some ""
    | some kept => some (joinNames (first :: kept))
  | [] => none

/-- The directory of a path, the empty path if it has none. -/
def parent (path : String) : String := (parent? path).getD ""

end FighterCheck.Files
