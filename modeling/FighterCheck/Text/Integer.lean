/-!
# Whole numbers in text

A number is an optional sign and one or more ASCII digits, leading zeros allowed and nothing else,
and it is read only if its value fits in 32 bits. It is written without a plus sign and without
leading zeros.
-/

namespace FighterCheck.Text

/-- The value of an ASCII digit. -/
def digitValue (c : Char) : Nat := c.toNat - '0'.toNat

/-- The value of a list of digits, the most significant first. -/
def digitsValue (cs : List Char) : Nat := cs.foldl (fun n c => 10 * n + digitValue c) 0

/-- One or more ASCII digits, read as a number. -/
def readDigits (cs : List Char) : Option Nat :=
  if cs ≠ [] ∧ cs.all Char.isDigit then some (digitsValue cs) else none

/-- An optional sign and one or more digits, read as a number. -/
def readInteger : List Char → Option Int
  | '+' :: cs => (readDigits cs).map Int.ofNat
  | '-' :: cs => (readDigits cs).map fun n => -(n : Int)
  | cs => (readDigits cs).map Int.ofNat

/-- A number that fits in 32 bits. -/
def readInt32 (cs : List Char) : Option Int32 :=
  (readInteger cs).bind fun n =>
    if -2147483648 ≤ n ∧ n ≤ 2147483647 then some (Int32.ofInt n) else none

/-- The digits of a number. -/
def showNat (n : Nat) : String := String.ofList (Nat.toDigits 10 n)

/-- The sign, if negative, and digits of a number. -/
def showInt32 (n : Int32) : String :=
  if n.toInt < 0 then "-" ++ showNat n.toInt.natAbs else showNat n.toInt.natAbs

end FighterCheck.Text
