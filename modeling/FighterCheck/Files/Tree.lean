import FighterCheck.Encoding.Utf8
import FighterCheck.Files.Fault
import FighterCheck.Files.Path

/-!
# Trees of files

Everything that reads files is a function of the tree they stand in. A tree says what stands at a
place; the working directory and the directories above it always stand, and nothing below them does
unless the tree has it. Paths are followed name by name: each name but the last must be that of a
directory, also when a later `..` leaves it again, and a slash at the end asks for a directory. Names
and paths are bounded in their octets. A file may be there and yet not be opened.
-/

namespace FighterCheck.Files

/-- Where a path starts. -/
inductive Anchor where
  /-- the root of all files -/
  | root
  /-- the directory so many levels above the working directory -/
  | above (levels : Nat)
  deriving Repr, DecidableEq

/-- A place where a file or a directory can stand. -/
structure Place where
  /-- the directory the place is counted from -/
  anchor : Anchor
  /-- the names that lead to the place, the innermost first -/
  names : List String
  deriving Repr, DecidableEq

/-- What stands at a place. -/
inductive Content where
  /-- a file with its octets -/
  | file (octets : List UInt8)
  /-- a file that the system opens neither to read nor to write -/
  | barred (reason : Refusal)
  /-- a directory -/
  | directory
  deriving Repr, DecidableEq

/-- Files and directories by their places. -/
structure Tree where
  /-- what stands where; of two entries for a place the first counts -/
  entries : List (Place × Content)
  deriving Repr

namespace Place

/-- The working directory. -/
def here : Place := ⟨.above 0, []⟩

/-- The directory around a place; the root stands around itself. -/
def outer (p : Place) : Place :=
  match p.names, p.anchor with
  | _ :: names, a => ⟨a, names⟩
  | [], .above n => ⟨.above (n + 1), []⟩
  | [], .root => ⟨.root, []⟩

/-- The place that a name leads to from the directory `p`. -/
def enter (p : Place) (name : List Char) : Place :=
  if isIdle name then p
  else if name == ['.', '.'] then p.outer
  else ⟨p.anchor, String.ofList name :: p.names⟩

/-- The place a path starts from, and the names that follow. -/
def start (path : String) : Place × List (List Char) :=
  if isAbsolute path then (⟨.root, []⟩, (Text.split '/' path.toList).tail)
  else (here, Text.split '/' path.toList)

end Place

/-- The name has more octets than the 255 that a name may have. -/
def isOverlong (name : List Char) : Bool := 255 < (Encoding.Utf8.encode name).length

/-- Why a path leads nowhere whatever stands where. It may have up to 4095 octets. -/
def pathFault? (path : String) : Option Fault :=
  if path.toList.contains '\x00' then some .nulInPath
  else if path.isEmpty then some .notFound
  else if 4095 < (Encoding.Utf8.encode path.toList).length then some .nameTooLong
  else none

namespace Tree

/-- The tree in which nothing but the standing directories is. -/
def empty : Tree := ⟨[]⟩

/-- What stands at a place. -/
def contentAt (t : Tree) (p : Place) : Option Content :=
  if p.names.isEmpty then some .directory else t.entries.lookup p

/-- The place, if a directory stands there. -/
def asDirectory (t : Tree) (p : Place) : Except Fault Place :=
  match t.contentAt p with
  | none => .error .notFound
  | some .directory => .ok p
  | some _ => .error .notDirectory

/-- The place the names lead to from `p`, each of them taken from a directory. -/
def follow (t : Tree) (p : Place) : List (List Char) → Except Fault Place
  | [] => .ok p
  | name :: names =>
    match t.asDirectory p with
    | .error e => .error e
    | .ok d => if isOverlong name then .error .nameTooLong else t.follow (d.enter name) names

/-- The place that a path leads to, whether or not something stands there. -/
def locate (t : Tree) (path : String) : Except Fault Place :=
  match pathFault? path with
  | some fault => .error fault
  | none => t.follow (Place.start path).1 (Place.start path).2

/-- What stands at the end of a path. -/
def lookup (t : Tree) (path : String) : Except Fault Content := do
  let p ← t.locate path
  match t.contentAt p with
  | none => .error .notFound
  | some c => .ok c

/-- The path leads to a file. -/
def isFile (t : Tree) (path : String) : Bool :=
  match t.lookup path with
  | .ok (.file _) => true
  | .ok (.barred _) => true
  | _ => false

/-- The path leads to a directory. -/
def isDirectory (t : Tree) (path : String) : Bool :=
  match t.lookup path with
  | .ok .directory => true
  | _ => false

/-- The octets of the file that a path leads to. -/
def read (t : Tree) (path : String) : Except Fault (List UInt8) :=
  match t.lookup path with
  | .ok (.file octets) => .ok octets
  | .ok (.barred reason) => .error (.refused reason)
  | .ok .directory => .error .isDirectory
  | .error e => .error e

/-- The tree with `c` at the place `p`. -/
def set (t : Tree) (p : Place) (c : Content) : Tree :=
  ⟨(p, c) :: t.entries.filter (·.1 != p)⟩

/-- The tree with nothing at the place `p`. -/
def clear (t : Tree) (p : Place) : Tree :=
  ⟨t.entries.filter (·.1 != p)⟩

/-- The names without the empty ones at their end, which slashes there leave. -/
def dropSlashes (names : List (List Char)) : List (List Char) :=
  (names.reverse.dropWhile (· = [])).reverse

/-- The place where a file of that path can be written: in a standing directory, under a name of its
own with no slash after it, where neither a directory stands nor a file that is barred. -/
def target (t : Tree) (path : String) : Except Fault Place := do
  if let some fault := pathFault? path then throw fault
  let (p, names) := Place.start path
  let kept := dropSlashes names
  let d ← t.asDirectory (← t.follow p kept.dropLast)
  match kept.getLast? with
  | none => throw .isDirectory
  | some name =>
    if kept ≠ names ∨ isIdle name ∨ name = ['.', '.'] then throw .isDirectory
    if isOverlong name then throw .nameTooLong
    match t.contentAt (d.enter name) with
    | some .directory => throw .isDirectory
    | some (.barred reason) => throw (.refused reason)
    | _ => pure (d.enter name)

/-- The tree after a file has been written: made anew, or its former content replaced. -/
def write (t : Tree) (path : String) (octets : List UInt8) : Except Fault Tree := do
  let p ← t.target path
  pure (t.set p (.file octets))

/-- The tree after the file of that path has been removed, if the path leads to a file. -/
def remove? (t : Tree) (path : String) : Option Tree :=
  match t.locate path with
  | .ok p =>
    match t.contentAt p with
    | some (.file _) => some (t.clear p)
    | some (.barred _) => some (t.clear p)
    | _ => none
  | .error _ => none

/-- The tree with a directory at every place that the names pass, and the last of these places. -/
def makeWay (t : Tree) (p : Place) : List (List Char) → Tree × Place
  | [] => (t, p)
  | name :: names =>
    let q := p.enter name
    let t := match t.contentAt q with
      | none => t.set q .directory
      | some _ => t
    t.makeWay q names

/-- The tree with a directory at the end of the path and on the way there. -/
def putDirectory (t : Tree) (path : String) : Tree :=
  (t.makeWay (Place.start path).1 (Place.start path).2).1

/-- The tree with directories on the way to the end of the path. -/
def makeWayTo (t : Tree) (path : String) : Tree :=
  (t.makeWay (Place.start path).1 (Place.start path).2.dropLast).1

/-- The tree with a file at the end of the path and directories on the way there. -/
def putFile (t : Tree) (path : String) (octets : List UInt8) : Tree :=
  ((t.makeWayTo path).write path octets).toOption.getD (t.makeWayTo path)

/-- The tree with a file at the end of the path that cannot be opened, and directories on the way
there. -/
def putBarred (t : Tree) (path : String) (reason : Refusal) : Tree :=
  match (t.makeWayTo path).target path with
  | .ok p => (t.makeWayTo path).set p (.barred reason)
  | .error _ => t.makeWayTo path

end Tree

end FighterCheck.Files
