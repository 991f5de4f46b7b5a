/-!
# Lines

Two readings of a text as lines.  `linesWithEnds` keeps every line feed, so the pieces joined
give the text back (`flatten_linesWithEnds`); `lines` is what a reader of a definition file
sees, without `LF` or `CR LF` at the end of a line.
-/

namespace TexGlyph

/-- The lines of a text, each with its line feed; the last one may have none. -/
def linesWithEnds : List Char → List (List Char)
  | [] => []
  | c :: cs =>
    if c = '\n' then [c] :: linesWithEnds cs
    else match linesWithEnds cs with
      | [] => [[c]]
      | line :: lines => (c :: line) :: lines

/-- Removes the line break at the end of a line: `LF`, and a `CR` just before it.  A line
without `LF` keeps its `CR`. -/
def withoutBreak (line : List Char) : List Char :=
  match line.reverse with
  | '\n' :: '\r' :: rest => rest.reverse
  | '\n' :: rest => rest.reverse
  | _ => line

/-- The lines of a text without their line breaks. -/
def lines (cs : List Char) : List (List Char) := (linesWithEnds cs).map withoutBreak

/-- No character is lost: the lines with their ends make up the text. -/
@[simp] theorem flatten_linesWithEnds (cs : List Char) : (linesWithEnds cs).flatten = cs := by
  induction cs with
  | nil => rfl
  | cons c cs ih =>
    simp only [linesWithEnds]
    split
    · simp [ih]
    · cases h : linesWithEnds cs with
      | nil => rw [h] at ih; simpa using ih
      | cons l ls => rw [h] at ih; simpa using ih

end TexGlyph
