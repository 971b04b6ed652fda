import FighterCheck.Text.Integer

/-!
# Headers of sprite containers

A container begins with a signature of twelve octets and a version tag of four, stored from its last
part to its first. The tag `1.010` is that of the first layout, in which four numbers follow; every
other tag belongs to the second, in which eight numbers follow after twenty reserved octets. Numbers
take four octets each, the least significant first. Reading checks the length before the signature
and the signature before the tag.
-/

namespace FighterCheck.Sprite

/-- The octets that every container begins with. -/
def signature : List UInt8 := "ElecbyteSpr".toList.map (·.toNat.toUInt8) ++ [0]

/-- A version tag, part by part in the order in which they are shown. -/
structure Version where
  /-- the part before the full stop, stored last -/
  major : UInt8
  /-- the first part after the full stop -/
  minor : UInt8
  /-- the second part after the full stop -/
  patch : UInt8
  /-- the third part after the full stop, stored first -/
  build : UInt8
  deriving Repr, DecidableEq

namespace Version

/-- The tag of the first layout. -/
def first : Version := ⟨1, 0, 1, 0⟩

/-- The tag of new containers in the second layout. -/
def fresh : Version := ⟨2, 1, 0, 0⟩

/-- The tag as it is stored. -/
def octets (v : Version) : List UInt8 := [v.build, v.patch, v.minor, v.major]

/-- The tag of a container, if it is long enough to have one. -/
def read? (data : List UInt8) : Option Version :=
  match data.drop 12 with
  | build :: patch :: minor :: major :: _ => some ⟨major, minor, patch, build⟩
  | _ => none

/-- The tag in words: the parts in decimal, with a full stop after the first. -/
def text (v : Version) : String :=
  Text.showNat v.major.toNat ++ "." ++ Text.showNat v.minor.toNat ++ Text.showNat v.patch.toNat ++
    Text.showNat v.build.toNat

/-- The tag is that of the first layout. -/
def isFirst (v : Version) : Bool := v == first

end Version

/-- The number at an offset; zero where the data end before it does. -/
def numberAt (data : List UInt8) (offset : Nat) : UInt32 :=
  match data.drop offset with
  | a :: b :: c :: d :: _ =>
    UInt32.ofNat (a.toNat + 0x100 * (b.toNat + 0x100 * (c.toNat + 0x100 * d.toNat)))
  | _ => 0

/-- A number as it is stored. -/
def numberOctets (n : UInt32) : List UInt8 :=
  [n.toNat.toUInt8, (n.toNat / 0x100).toUInt8, (n.toNat / 0x10000).toUInt8,
    (n.toNat / 0x1000000).toUInt8]

/-- A header in the first layout. -/
structure FirstHeader where
  /-- the version tag -/
  version : Version
  /-- how many groups there are -/
  groupCount : UInt32
  /-- how many sprites there are -/
  spriteCount : UInt32
  /-- where the first sprite stands -/
  subfileOffset : UInt32
  /-- how long the header of a sprite is -/
  subheaderLength : UInt32
  deriving Repr, DecidableEq

/-- A header in the second layout. -/
structure SecondHeader where
  /-- the version tag -/
  version : Version
  /-- where the first sprite node stands -/
  firstSpriteOffset : UInt32
  /-- how many sprites there are -/
  spriteCount : UInt32
  /-- where the first palette node stands -/
  firstPaletteOffset : UInt32
  /-- how many palettes there are -/
  paletteCount : UInt32
  /-- where the literal data stand -/
  ldataOffset : UInt32
  /-- how long the literal data are -/
  ldataLength : UInt32
  /-- where the data to be unpacked stand -/
  tdataOffset : UInt32
  /-- how long the data to be unpacked are -/
  tdataLength : UInt32
  deriving Repr, DecidableEq

/-- The header of a container. -/
inductive Header where
  /-- in the first layout -/
  | first (h : FirstHeader)
  /-- in the second layout -/
  | second (h : SecondHeader)
  deriving Repr, DecidableEq

/-- The two layouts. -/
inductive Layout where
  /-- the first -/
  | first
  /-- the second -/
  | second
  deriving Repr, DecidableEq

namespace Layout

/-- How long a header is. -/
def length : Layout → Nat
  | .first => 32
  | .second => 68

/-- The name of a layout. -/
def name : Layout → String
  | .first => "v1"
  | .second => "v2"

end Layout

/-- Why octets are no header. -/
inductive HeaderError where
  /-- there are too few of them -/
  | truncated (expected actual : Nat)
  /-- they do not begin with the signature -/
  | malformed
  /-- the version tag belongs to the other layout -/
  | wrongVersion (version : Version) (layout : Layout)
  deriving Repr, DecidableEq

/-- The wording of an error. -/
def HeaderError.message : HeaderError → String
  | .truncated expected actual =>
    "SFF header truncated: expected at least " ++ Text.showNat expected ++ " bytes, got " ++
      Text.showNat actual
  | .malformed => "SFF file has a malformed header signature"
  | .wrongVersion version layout =>
    "invalid SFF version " ++ version.text ++ " for " ++ layout.name ++ " header"

namespace FirstHeader

/-- The numbers of a header, in the order in which they are stored. -/
def fields (h : FirstHeader) : List UInt32 :=
  [h.groupCount, h.spriteCount, h.subfileOffset, h.subheaderLength]

/-- The header as it is stored. -/
def octets (h : FirstHeader) : List UInt8 :=
  signature ++ h.version.octets ++ h.fields.flatMap numberOctets

end FirstHeader

namespace SecondHeader

/-- The header of an empty container. -/
def fresh : SecondHeader := ⟨.fresh, 0, 0, 0, 0, 0, 0, 0, 0⟩

/-- The numbers of a header, in the order in which they are stored. -/
def fields (h : SecondHeader) : List UInt32 :=
  [h.firstSpriteOffset, h.spriteCount, h.firstPaletteOffset, h.paletteCount, h.ldataOffset,
    h.ldataLength, h.tdataOffset, h.tdataLength]

/-- The header as it is stored, the reserved octets being zero. -/
def octets (h : SecondHeader) : List UInt8 :=
  signature ++ h.version.octets ++ List.replicate 20 0 ++ h.fields.flatMap numberOctets

end SecondHeader

/-- The version tag of data that are long enough for the layout and begin with the signature. -/
def readPrefix (layout : Layout) (data : List UInt8) : Except HeaderError Version :=
  if data.length < layout.length then .error (.truncated layout.length data.length)
  else if !signature.isPrefixOf data then .error .malformed
  else match Version.read? data with
    | some v => .ok v
    | none => .error (.truncated layout.length data.length)

/-- A header in the first layout. -/
def FirstHeader.read (data : List UInt8) : Except HeaderError FirstHeader := do
  let v ← readPrefix .first data
  if !v.isFirst then throw (.wrongVersion v .first)
  pure ⟨v, numberAt data 16, numberAt data 20, numberAt data 24, numberAt data 28⟩

/-- A header in the second layout. -/
def SecondHeader.read (data : List UInt8) : Except HeaderError SecondHeader := do
  let v ← readPrefix .second data
  if v.isFirst then throw (.wrongVersion v .second)
  pure ⟨v, numberAt data 36, numberAt data 40, numberAt data 44, numberAt data 48,
    numberAt data 52, numberAt data 56, numberAt data 60, numberAt data 64⟩

namespace Header

/-- The layout that data are in, by their version tag. -/
def layoutOf (data : List UInt8) : Layout :=
  if (Version.read? data).any Version.isFirst then .first else .second

/-- The header of a container, in the layout that its version tag names. -/
def read (data : List UInt8) : Except HeaderError Header :=
  match layoutOf data with
  | .first => (FirstHeader.read data).map Header.first
  | .second => (SecondHeader.read data).map Header.second

/-- The version tag. -/
def version : Header → Version
  | .first h => h.version
  | .second h => h.version

/-- How many sprites there are. -/
def spriteCount : Header → UInt32
  | .first h => h.spriteCount
  | .second h => h.spriteCount

/-- The container has a sprite of that index. -/
def hasSprite (h : Header) (index : UInt32) : Bool := index < h.spriteCount

/-- The header as it is stored. -/
def octets : Header → List UInt8
  | .first h => h.octets
  | .second h => h.octets

end Header

end FighterCheck.Sprite
