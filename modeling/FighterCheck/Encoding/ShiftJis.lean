import FighterCheck.Encoding.Decoded
import FighterCheck.Encoding.Kuten

/-!
# Shift_JIS

ASCII and the half-width kana take one octet, the Japanese character set two: the first octet picks
a pair of rows and the second a cell of one of them. Twenty rows are private and stand for code
points of the private use area when read; they are not written. When the second octet does not fit,
an ASCII octet there is read again on its own.
-/

namespace FighterCheck.Encoding.ShiftJis

/-- The character of an octet that stands on its own: ASCII, U+0080, or half-width kana. -/
def single? (octet : UInt8) : Option Char :=
  let n := octet.toNat
  if n ≤ 0x80 then some (Char.ofNat n)
  else if 0xA1 ≤ n ∧ n ≤ 0xDF then some (Char.ofNat (0xFF61 + (n - 0xA1)))
  else none

/-- The octet begins a pair. -/
def isLead (octet : UInt8) : Bool :=
  let n := octet.toNat
  (0x81 ≤ n && n ≤ 0x9F) || (0xE0 ≤ n && n ≤ 0xFC)

/-- The place of a pair's character, counted through the cells of all rows from zero, if the second
octet can end a pair. -/
def pointer? (lead trail : UInt8) : Option Nat :=
  let l := lead.toNat
  let t := trail.toNat
  let base := (if l < 0xA0 then l - 0x81 else l - 0xC1) * 188
  if 0x40 ≤ t ∧ t ≤ 0x7E then some (base + (t - 0x40))
  else if 0x80 ≤ t ∧ t ≤ 0xFC then some (base + (t - 0x41))
  else none

/-- The character at a place. The rows from 95 to 114 are private. -/
def charAt? (pointer : Nat) : Option Char :=
  if 8836 ≤ pointer ∧ pointer ≤ 10715 then some (Char.ofNat (0xE000 + (pointer - 8836)))
  else kutenChar? (pointer / 94 + 1) (pointer % 94 + 1)

/-- The character of a pair. -/
def pair? (lead trail : UInt8) : Option Char := (pointer? lead trail).bind charAt?

/-- The characters and malformed sequences that the octets hold; `pending` is the first octet of a
pair before them. -/
def decodeAfter : (pending : Option UInt8) → List UInt8 → Decoded
  | none, [] => []
  | some _, [] => [none]
  | none, o :: octets =>
    if isLead o then decodeAfter (some o) octets else single? o :: decodeAfter none octets
  | some lead, o :: octets =>
    match pair? lead o with
    | some c => some c :: decodeAfter none octets
    | none => (if o.toNat < 0x80 then [none, single? o] else [none]) ++ decodeAfter none octets

/-- The characters and malformed sequences that the octets hold. -/
def decode (octets : List UInt8) : Decoded := decodeAfter none octets

/-- The two octets of the character in a row and cell. -/
def octetsOfKuten (row cell : Nat) : List UInt8 :=
  let lead := (row - 1) / 2
  let trail := (row - 1) % 2 * 94 + (cell - 1)
  [(lead + if lead < 0x1F then 0x81 else 0xC1).toUInt8,
    (trail + if trail < 0x3F then 0x40 else 0x41).toUInt8]

/-- The octets of a character, if it can be written. The yen sign, the overline and the minus sign
are written as the characters that took their places. -/
def encodeChar? (c : Char) : Option (List UInt8) :=
  let n := c.toNat
  if n ≤ 0x80 then some [n.toUInt8]
  else if c = '¥' then some [0x5C]
  else if c = '‾' then some [0x7E]
  else if 0xFF61 ≤ n ∧ n ≤ 0xFF9F then some [(n - 0xFF61 + 0xA1).toUInt8]
  else (kutenOf? (if c = '−' then '－' else c)).map fun (row, cell) => octetsOfKuten row cell

/-- A reference to a character by its decimal code point, in ASCII. -/
def reference (c : Char) : List UInt8 :=
  (['&', '#'] ++ Nat.toDigits 10 c.toNat ++ [';']).map fun d => d.toNat.toUInt8

/-- The octets of a text; a character that cannot be written is referred to by its code point. -/
def encode (cs : List Char) : List UInt8 :=
  cs.flatMap fun c => (encodeChar? c).getD (reference c)

end FighterCheck.Encoding.ShiftJis
