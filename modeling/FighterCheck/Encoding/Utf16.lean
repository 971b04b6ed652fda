import FighterCheck.Encoding.Decoded

/-!
# UTF-16

A character is written in one unit of sixteen bits, or in a pair of surrogates, the leading one
first. A unit is two octets in one of two orders. A surrogate without its partner is malformed, and
so is whatever the text ends in before a character is complete.
-/

namespace FighterCheck.Encoding.Utf16

/-- The order of the two octets of a unit. -/
inductive Order where
  /-- the less significant octet first -/
  | little
  /-- the more significant octet first -/
  | big
  deriving Repr, DecidableEq

/-- The unit is the first of a pair. -/
def isLeading (u : Nat) : Bool := 0xD800 ≤ u && u < 0xDC00

/-- The unit is the second of a pair. -/
def isTrailing (u : Nat) : Bool := 0xDC00 ≤ u && u < 0xE000

/-- The units of a character. -/
def unitsOf (c : Char) : List Nat :=
  let n := c.toNat
  if n < 0x10000 then [n]
  else [0xD800 + (n - 0x10000) / 0x400, 0xDC00 + (n - 0x10000) % 0x400]

/-- The two octets of a unit. -/
def octetsOf : Order → Nat → List UInt8
  | .little, u => [(u % 0x100).toUInt8, (u / 0x100).toUInt8]
  | .big, u => [(u / 0x100).toUInt8, (u % 0x100).toUInt8]

/-- The octets of a text. -/
def encode (order : Order) (cs : List Char) : List UInt8 :=
  (cs.flatMap unitsOf).flatMap (octetsOf order)

/-- The value of a unit. -/
def unit : Order → UInt8 → UInt8 → Nat
  | .little, a, b => a.toNat + 0x100 * b.toNat
  | .big, a, b => 0x100 * a.toNat + b.toNat

/-- The units of the octets, and whether an odd octet is left at the end. -/
def units (order : Order) : List UInt8 → List Nat × Bool
  | [] => ([], false)
  | [_] => ([], true)
  | a :: b :: octets =>
    let (us, odd) := units order octets
    (unit order a b :: us, odd)

/-- The character that a pair of surrogates stands for. -/
def ofPair (leading trailing : Nat) : Char :=
  Char.ofNat (0x10000 + (leading - 0xD800) * 0x400 + (trailing - 0xDC00))

/-- The characters and malformed sequences of the units. `pending` is a leading surrogate before
them; `odd` tells that an octet follows the last unit, which makes one malformed sequence together
with a leading surrogate before it. -/
def ofUnits (odd : Bool) : (pending : Option Nat) → List Nat → Decoded
  | pending, [] => if odd || pending.isSome then [none] else []
  | pending, u :: us =>
    if isTrailing u then pending.map (ofPair · u) :: ofUnits odd none us
    else
      (if pending.isSome then [none] else []) ++
        if isLeading u then ofUnits odd (some u) us
        else some (Char.ofNat u) :: ofUnits odd none us

/-- The characters and malformed sequences that the octets hold. -/
def decode (order : Order) (octets : List UInt8) : Decoded :=
  ofUnits (units order octets).2 none (units order octets).1

end FighterCheck.Encoding.Utf16
