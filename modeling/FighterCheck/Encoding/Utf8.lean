import FighterCheck.Encoding.Decoded

/-!
# UTF-8

A character is written in one to four octets. The first octet tells how many follow and, together
with the bounds on the second, keeps out overlong forms, surrogates and values beyond the last code
point. In a malformed text, the longest beginning that a character could have is one malformed
sequence, and reading goes on right after it.
-/

namespace FighterCheck.Encoding.Utf8

/-- The octets of a character. -/
def encodeChar (c : Char) : List UInt8 :=
  let n := c.toNat
  if n < 0x80 then [n.toUInt8]
  else if n < 0x800 then [(0xC0 + n / 0x40).toUInt8, (0x80 + n % 0x40).toUInt8]
  else if n < 0x10000 then
    [(0xE0 + n / 0x1000).toUInt8, (0x80 + n / 0x40 % 0x40).toUInt8, (0x80 + n % 0x40).toUInt8]
  else
    [(0xF0 + n / 0x40000).toUInt8, (0x80 + n / 0x1000 % 0x40).toUInt8,
      (0x80 + n / 0x40 % 0x40).toUInt8, (0x80 + n % 0x40).toUInt8]

/-- The octets of a text. -/
def encode (cs : List Char) : List UInt8 := cs.flatMap encodeChar

/-- What the first octet of a character says of the others. -/
structure Lead where
  /-- the bits of the code point that the first octet carries -/
  value : Nat
  /-- how many octets follow -/
  trails : Nat
  /-- the least second octet -/
  low : Nat
  /-- the greatest second octet -/
  high : Nat
  deriving Repr, DecidableEq

/-- The first octet of a character, if it can be one. -/
def lead? (octet : UInt8) : Option Lead :=
  let n := octet.toNat
  if n < 0x80 then some ⟨n, 0, 0x80, 0xBF⟩
  else if n < 0xC2 then none
  else if n < 0xE0 then some ⟨n - 0xC0, 1, 0x80, 0xBF⟩
  else if n < 0xF0 then
    some ⟨n - 0xE0, 2, if n = 0xE0 then 0xA0 else 0x80, if n = 0xED then 0x9F else 0xBF⟩
  else if n < 0xF5 then
    some ⟨n - 0xF0, 3, if n = 0xF0 then 0x90 else 0x80, if n = 0xF4 then 0x8F else 0xBF⟩
  else none

/-- Adds as many further octets to `value` as `count` says, the first of them within the bounds, and
gives what is left; stops before the first octet that does not fit. -/
def takeTrails (value : Nat) : (count low high : Nat) → List UInt8 → Option Char × List UInt8
  | 0, _, _, octets => (some (Char.ofNat value), octets)
  | _ + 1, _, _, [] => (none, [])
  | count + 1, low, high, o :: octets =>
    if low ≤ o.toNat ∧ o.toNat ≤ high then
      takeTrails (value * 0x40 + (o.toNat - 0x80)) count 0x80 0xBF octets
    else (none, o :: octets)

theorem length_takeTrails (value count low high : Nat) (octets : List UInt8) :
    (takeTrails value count low high octets).2.length ≤ octets.length := by
  induction octets generalizing value count low high with
  | nil => cases count <;> simp [takeTrails]
  | cons o octets ih =>
    cases count with
    | zero => simp [takeTrails]
    | succ count =>
      simp only [takeTrails]
      split
      · exact Nat.le_succ_of_le (ih ..)
      · exact Nat.le_refl _

/-- The character at the beginning of `o :: octets`, and what is left after it or after the
malformed sequence there. -/
def next (o : UInt8) (octets : List UInt8) : Option Char × List UInt8 :=
  match lead? o with
  | none => (none, octets)
  | some l => takeTrails l.value l.trails l.low l.high octets

theorem length_next (o : UInt8) (octets : List UInt8) :
    (next o octets).2.length ≤ octets.length := by
  unfold next
  split
  · exact Nat.le_refl _
  · exact length_takeTrails ..

/-- The characters and malformed sequences that the octets hold. -/
def decode : List UInt8 → Decoded
  | [] => []
  | o :: octets => (next o octets).1 :: decode (next o octets).2
  termination_by octets => octets.length
  decreasing_by
    have := length_next o octets
    simp only [List.length_cons]
    omega

end FighterCheck.Encoding.Utf8
