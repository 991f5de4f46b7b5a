import TexGlyph.Encoding.Piece

/-!
# Windows-1252

One byte is one character.  Most bytes have the code point of their value; the exceptions lie
between 0x80 and 0x9F, where five bytes keep their value too.
-/

namespace TexGlyph.Windows1252

/-- The characters of the bytes 0x80 to 0x9F. -/
def special : List Char :=
  ['\u20AC', '\u0081', '\u201A', '\u0192', '\u201E', '\u2026', '\u2020', '\u2021',
    '\u02C6', '\u2030', '\u0160', '\u2039', '\u0152', '\u008D', '\u017D', '\u008F',
    '\u0090', '\u2018', '\u2019', '\u201C', '\u201D', '\u2022', '\u2013', '\u2014',
    '\u02DC', '\u2122', '\u0161', '\u203A', '\u0153', '\u009D', '\u017E', '\u0178']

/-- The character of a byte. -/
def char (b : UInt8) : Char :=
  let n := b.toNat
  if n < 0x80 then Char.ofNat n else special.getD (n - 0x80) (Char.ofNat n)

/-- Reads bytes as Windows-1252; none of them is malformed. -/
def decode (bytes : List UInt8) : List Piece := bytes.map fun b => .scalar (char b)

end TexGlyph.Windows1252
