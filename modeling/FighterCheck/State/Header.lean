import FighterCheck.Text.Blank
import FighterCheck.Text.Cut
import FighterCheck.Text.Integer

/-!
# Headers of state files

A header that begins with `statedef` opens a definition and one that begins with `state` otherwise a
state block; other sections are not looked into. The number of a definition stands right after its
keyword and ends at a plain space or a comma. The number of a state block stands between the first
plain space of the header and the next comma; the game does not load a header without such a space.
-/

namespace FighterCheck.State

/-- The number in the header of a definition. -/
structure StatedefHeader where
  /-- the number as written -/
  rawId : String
  /-- the number, if what is written is one -/
  id : Option Int32
  deriving Repr, DecidableEq

/-- The number in the header of a state block. -/
inductive Number where
  /-- there is none -/
  | omitted
  /-- a number -/
  | number (n : Int32)
  /-- something that is no number -/
  | malformed (raw : String)
  deriving Repr, DecidableEq

/-- The header of a state block. -/
structure StateHeader where
  /-- the number -/
  number : Number
  /-- there is a space in the header -/
  hasSeparator : Bool
  deriving Repr, DecidableEq

/-- What a section of a state file is. -/
inductive SectionKind where
  /-- the beginning of a definition -/
  | statedef (header : StatedefHeader)
  /-- a state block -/
  | state (header : StateHeader)
  /-- a section of another use -/
  | other
  deriving Repr, DecidableEq

/-- The keyword of definitions. -/
def statedefKeyword : List Char := "statedef".toList

/-- The keyword of state blocks, which the other begins with. -/
def stateKeyword : List Char := "state".toList

/-- The number of a definition as it is written after the keyword. -/
def rawStatedefId (rest : List Char) : List Char :=
  Text.trim ((Text.trimStart rest).takeWhile fun c => c ≠ ' ' && c ≠ ',')

/-- The header of a definition, read after its keyword. -/
def statedefHeader (rest : List Char) : StatedefHeader :=
  ⟨String.ofList (rawStatedefId rest), Text.readInt32 (rawStatedefId rest)⟩

/-- The number of a state block, read after the first space of the header. -/
def stateNumber (rest : List Char) : Number :=
  let raw := Text.trim (rest.takeWhile (· ≠ ','))
  if raw = [] then .omitted
  else match Text.readInt32 raw with
    | some n => .number n
    | none => .malformed (String.ofList raw)

/-- The header of a state block. -/
def stateHeader (name : List Char) : StateHeader :=
  match Text.cut (· = ' ') name with
  | none => ⟨.omitted, false⟩
  | some (_, _, rest) => ⟨stateNumber rest, true⟩

/-- What a section of that name is. -/
def SectionKind.ofName (name : String) : SectionKind :=
  if statedefKeyword.isPrefixOf name.toList then
    .statedef (statedefHeader (name.toList.drop statedefKeyword.length))
  else if stateKeyword.isPrefixOf name.toList then .state (stateHeader name.toList)
  else .other

end FighterCheck.State
