import TexGlyph.Encoding.Piece

/-!
# UTF-16

Bytes are paired to units in either byte order.  A leading surrogate and the trailing one after it
make up one character; a surrogate without its partner is malformed, and so is whatever the end
of the input cuts off.
-/

namespace TexGlyph.Utf16

/-- The order of the two bytes of a unit. -/
inductive ByteOrder where
  /-- The low byte comes first. -/
  | little
  /-- The high byte comes first. -/
  | big
deriving DecidableEq, Repr

/-- The unit of two bytes. -/
def unit : ByteOrder → UInt8 → UInt8 → Nat
  | .little, a, b => a.toNat + 256 * b.toNat
  | .big, a, b => 256 * a.toNat + b.toNat

/-- Whether the unit is the first half of a character. -/
def isLeading (u : Nat) : Bool := 0xD800 ≤ u && u ≤ 0xDBFF

/-- Whether the unit is the second half of a character. -/
def isTrailing (u : Nat) : Bool := 0xDC00 ≤ u && u ≤ 0xDFFF

/-- What a unit gives between characters: pieces, and the unit itself if it waits for its
second half. -/
def first (u : Nat) : List Piece × Option Nat :=
  if isLeading u then ([], some u)
  else if isTrailing u then ([.malformed], none)
  else ([.scalar (Char.ofNat u)], none)

/-- What a unit gives after a leading surrogate, if there is one. -/
def step : Option Nat → Nat → List Piece × Option Nat
  | none, u => first u
  | some lead, u =>
    if isTrailing u then
      ([.scalar (Char.ofNat (0x10000 + 1024 * (lead - 0xD800) + (u - 0xDC00)))], none)
    else
      let (pieces, state) := first u
      (.malformed :: pieces, state)

/-- Reads bytes after a leading surrogate, if there is one. -/
def decodeFrom (order : ByteOrder) : Option Nat → List UInt8 → List Piece
  | none, [] => []
  | some _, [] => [.malformed]
  | _, [_] => [.malformed]
  | state, a :: b :: bytes =>
    let (pieces, state) := step state (unit order a b)
    pieces ++ decodeFrom order state bytes

/-- Reads bytes as UTF-16 of the given byte order. -/
def decode (order : ByteOrder) (bytes : List UInt8) : List Piece := decodeFrom order none bytes

example : Piece.text (decode .big [0xD8, 0x35, 0xDC, 0x00]) = "𝐀" := by decide +kernel
example : decode .little [0x00, 0xDC, 0x41, 0x00] = [.malformed, .scalar 'A'] := by
  decide +kernel

end TexGlyph.Utf16
