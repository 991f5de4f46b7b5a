/-!
# Positions

A position names a character of an input by line and column, both counted from one.  It is only
used to say where something happened; the spelling does not depend on it.
-/

namespace TexGlyph

/-- A place in an input. -/
structure Position where
  /-- The name of the input. -/
  input : String
  /-- The line, counted from one. -/
  line : Nat := 1
  /-- The number of characters of the line up to and including the current one. -/
  column : Nat := 0
deriving DecidableEq, Repr

namespace Position

/-- The position `n` characters further on the same line. -/
def advance (p : Position) (n : Nat) : Position := { p with column := p.column + n }

/-- The start of the next line. -/
def nextLine (p : Position) : Position := { p with line := p.line + 1, column := 0 }

/-- The form in which messages show a position. -/
def shown (p : Position) : String :=
  "'" ++ p.input ++ "':" ++ toString p.line ++ ":" ++ toString p.column

@[simp] theorem advance_zero (p : Position) : p.advance 0 = p := rfl

theorem advance_advance (p : Position) (m n : Nat) :
    (p.advance m).advance n = p.advance (m + n) := by
  simp [advance, Nat.add_assoc]

end Position

end TexGlyph
