import FighterCheck.Encoding.TextEncoding
import FighterCheck.Files.Tree
import FighterCheck.Ini.Error

/-!
# Section files

A section file has a key, by which its character calls it, and a path, at which a file need not stand.
It is read afresh each time, in whatever encoding it is found to be, and can be written back in the
same one.
-/

namespace FighterCheck.Ini

open Encoding Files

/-- The text of a file and the encoding it was read in. -/
structure RawText where
  /-- the text -/
  text : String
  /-- the encoding -/
  encoding : TextEncoding
  deriving Repr, DecidableEq

/-- A file of sections that a character refers to. -/
structure SourceFile where
  /-- what the file is to its character, such as `st0` or `cns` -/
  key : String
  /-- where the file should be -/
  path : String
  deriving Repr, DecidableEq

namespace SourceFile

/-- The file is there. -/
def isPresent (f : SourceFile) (t : Tree) : Bool := t.isFile f.path

/-- The text of the file, with its encoding. -/
def readRaw (f : SourceFile) (t : Tree) : Except Error RawText :=
  match t.read f.path with
  | .ok octets =>
    let (cs, encoding) := TextEncoding.decode octets
    .ok ⟨String.ofList cs, encoding⟩
  | .error fault => .error (.ofReadFault f.path fault)

/-- The document in a file's text; errors name the file by its path. -/
def parseText (f : SourceFile) (text : String) : Except Error Document :=
  match Document.read text with
  | .ok d => .ok d
  | .error header => .error (.malformedHeader f.path header)

/-- The document in the file. -/
def parse (f : SourceFile) (t : Tree) : Except Error Document :=
  match f.readRaw t with
  | .ok raw => f.parseText raw.text
  | .error e => .error e

/-- The tree after the text has been written to the file in its encoding. -/
def writeRaw (f : SourceFile) (raw : RawText) (t : Tree) : Except Error Tree :=
  match t.write f.path (raw.encoding.encode raw.text.toList) with
  | .ok t => .ok t
  | .error fault => .error (.unwritable f.path fault)

/-- The tree after the text has been written to the file in UTF-8. -/
def writeText (f : SourceFile) (text : String) (t : Tree) : Except Error Tree :=
  f.writeRaw ⟨text, .plain⟩ t

end SourceFile

end FighterCheck.Ini
