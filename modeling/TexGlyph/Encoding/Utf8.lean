import TexGlyph.Encoding.Piece

/-!
# UTF-8

The decoder takes one byte at a time.  Between characters it takes a byte as the first of a
sequence; inside a sequence it knows which bytes may come next.  A byte that may not come ends the
sequence, which counts as one malformed piece, and is taken as a first byte again.
-/

namespace TexGlyph.Utf8

/-- A sequence of which some bytes have been read. -/
structure Sequence where
  /-- The bits read so far. -/
  value : Nat
  /-- The least byte that may come next. -/
  low : UInt8 := 0x80
  /-- The greatest byte that may come next. -/
  high : UInt8 := 0xBF
  /-- The number of bytes after the next one. -/
  more : Nat := 0
deriving DecidableEq, Repr

/-- The state of the decoder: inside a sequence, or between characters. -/
abbrev State := Option Sequence

/-- What a first byte gives: a character, the start of a sequence, or nothing.  The bounds for
the second byte keep out overlong forms, surrogates and numbers that are too large. -/
def first (b : UInt8) : List Piece × State :=
  let n := b.toNat
  if n ≤ 0x7F then ([.scalar (Char.ofNat n)], none)
  else if 0xC2 ≤ n ∧ n ≤ 0xDF then ([], some { value := n - 0xC0 })
  else if n = 0xE0 then ([], some { value := 0, low := 0xA0, more := 1 })
  else if n = 0xED then ([], some { value := n - 0xE0, high := 0x9F, more := 1 })
  else if 0xE1 ≤ n ∧ n ≤ 0xEF then ([], some { value := n - 0xE0, more := 1 })
  else if n = 0xF0 then ([], some { value := 0, low := 0x90, more := 2 })
  else if n = 0xF4 then ([], some { value := n - 0xF0, high := 0x8F, more := 2 })
  else if 0xF1 ≤ n ∧ n ≤ 0xF3 then ([], some { value := n - 0xF0, more := 2 })
  else ([.malformed], none)

/-- What a byte gives in a state. -/
def step : State → UInt8 → List Piece × State
  | none, b => first b
  | some s, b =>
    if s.low ≤ b ∧ b ≤ s.high then
      let value := s.value * 64 + (b.toNat - 0x80)
      match s.more with
      | 0 => ([.scalar (Char.ofNat value)], none)
      | more + 1 => ([], some { value, more })
    else
      let (pieces, state) := first b
      (.malformed :: pieces, state)

/-- Reads bytes in a state; a sequence that the end cuts off is malformed. -/
def decodeFrom : State → List UInt8 → List Piece
  | none, [] => []
  | some _, [] => [.malformed]
  | state, b :: bytes =>
    let (pieces, state) := step state b
    pieces ++ decodeFrom state bytes

/-- The bytes of a text. -/
def encode (text : String) : List UInt8 := text.toUTF8.data.toList

/-- Reads bytes as UTF-8. -/
def decode (bytes : List UInt8) : List Piece := decodeFrom none bytes

/-- The text of bytes that are well-formed UTF-8. -/
def text? (bytes : List UInt8) : Option String :=
  let pieces := decode bytes
  if pieces.contains .malformed then none else some (Piece.text pieces)

example : text? [0x61, 0xC3, 0xA9] = some "aé" := by decide +kernel
example : decode [0xE2, 0x82, 0x41] = [.malformed, .scalar 'A'] := by decide +kernel
example : decode [0xED, 0xA0] = [.malformed, .malformed] := by decide +kernel

end TexGlyph.Utf8
