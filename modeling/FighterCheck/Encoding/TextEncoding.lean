import FighterCheck.Encoding.ShiftJis
import FighterCheck.Encoding.Utf16
import FighterCheck.Encoding.Utf8

/-!
# Telling the encoding of a file

A byte order mark at the beginning of a file tells its encoding and is not part of its text. A file
without one is UTF-8 if it is well formed so, and Shift_JIS otherwise, since many characters were
made on Japanese systems. The encoding and the mark are kept for writing the file back.
-/

namespace FighterCheck.Encoding

/-- The encodings in which files are read and written. -/
inductive Charset where
  /-- UTF-8 -/
  | utf8
  /-- UTF-16 in one of its two orders -/
  | utf16 (order : Utf16.Order)
  /-- Shift_JIS -/
  | shiftJis
  deriving Repr, DecidableEq

namespace Charset

/-- The label of an encoding. -/
def name : Charset → String
  | .utf8 => "UTF-8"
  | .utf16 .little => "UTF-16LE"
  | .utf16 .big => "UTF-16BE"
  | .shiftJis => "Shift_JIS"

/-- The byte order mark of an encoding; Shift_JIS has none. -/
def mark : Charset → List UInt8
  | .utf8 => [0xEF, 0xBB, 0xBF]
  | .utf16 .little => [0xFF, 0xFE]
  | .utf16 .big => [0xFE, 0xFF]
  | .shiftJis => []

/-- The characters and malformed sequences that octets hold in this encoding. -/
def decode : Charset → List UInt8 → Decoded
  | .utf8 => Utf8.decode
  | .utf16 order => Utf16.decode order
  | .shiftJis => ShiftJis.decode

/-- The octets of a text in this encoding. -/
def encode : Charset → List Char → List UInt8
  | .utf8 => Utf8.encode
  | .utf16 order => Utf16.encode order
  | .shiftJis => ShiftJis.encode

end Charset

/-- How the text of a file is laid out in octets. -/
structure TextEncoding where
  /-- the encoding proper -/
  charset : Charset
  /-- the file begins with a byte order mark -/
  marked : Bool
  deriving Repr, DecidableEq

namespace TextEncoding

/-- UTF-8 without a byte order mark. -/
def plain : TextEncoding := ⟨.utf8, false⟩

/-- The encoding whose byte order mark the octets begin with, and the octets after it. -/
def ofMark? : List UInt8 → Option (Charset × List UInt8)
  | 0xEF :: 0xBB :: 0xBF :: octets => some (.utf8, octets)
  | 0xFF :: 0xFE :: octets => some (.utf16 .little, octets)
  | 0xFE :: 0xFF :: octets => some (.utf16 .big, octets)
  | _ => none

/-- The text of a file, and the encoding it was told to be in. -/
def decode (octets : List UInt8) : List Char × TextEncoding :=
  match ofMark? octets with
  | some (charset, rest) => ((charset.decode rest).lenient, ⟨charset, true⟩)
  | none =>
    match (Utf8.decode octets).strict? with
    | some cs => (cs, plain)
    | none => ((ShiftJis.decode octets).lenient, ⟨.shiftJis, false⟩)

/-- The octets of a file with that text, behind its byte order mark if it has one. -/
def encode (e : TextEncoding) (cs : List Char) : List UInt8 :=
  (if e.marked then e.charset.mark else []) ++ e.charset.encode cs

end TextEncoding

end FighterCheck.Encoding
