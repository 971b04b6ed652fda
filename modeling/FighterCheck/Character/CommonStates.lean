import FighterCheck.Files.Tree
import FighterCheck.Resources.Location
import FighterCheck.Text.AsciiCase

/-!
# The common state file

Every character has a common state file. One of a name of its own stands with the character. Under
the standard name, the engine's copy is used if it is there, and else the template for the version
that the character was made for. A path that a definition declares is taken from the directory of the
definition even if it begins with a slash or a backslash.
-/

namespace FighterCheck.Character

open Files (Tree join)
open Resources (CommonTemplate Location)

/-- The name under which the engine's copy or a template may stand in. -/
def standardCommonFile : String := "common1.cns"

/-- A declared path without the slashes and backslashes it begins with. -/
def relative (declared : String) : String :=
  String.ofList (declared.toList.dropWhile fun c => c = '/' || c = '\\')

/-- The path that a definition in the directory `base` declares. -/
def declaredPath (base declared : String) : String := join base (relative declared)

/-- How the common state file was chosen. -/
inductive CommonSource where
  /-- it is the character's own -/
  | declared
  /-- it is the engine's -/
  | engineData
  /-- it is a template -/
  | template (t : CommonTemplate)
  deriving Repr, DecidableEq

/-- The choice in words. -/
def CommonSource.text : CommonSource → String
  | .declared => "declared"
  | .engineData => "engine data"
  | .template t => "bundled " ++ t.fileName

/-- Where the engine keeps its copy, seen from the directory of a character. -/
def engineCopy (base : String) : String :=
  join (join (join (join base "..") "..") "data") standardCommonFile

/-- The path of the common state file and how it was chosen. -/
def resolveCommon (t : Tree) (base declared version : String) (resources : Location) :
    String × CommonSource :=
  if !Text.sameAscii declared standardCommonFile then (declaredPath base declared, .declared)
  else if t.isFile (engineCopy base) then (engineCopy base, .engineData)
  else (resources.commonTemplate version, .template (.ofVersion version))

end FighterCheck.Character
