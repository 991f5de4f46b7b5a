import TexGlyph.Spelling.Speller
import TexGlyph.Text.Lines

/-!
# The spelling of a text

A text is spelled character by character, and every remark is given the position of the character
that is being spelled.  A text of several lines is spelled line by line, each from a fresh list of
fragments, so that a mark at the start of a line does not reach back over the line break.
-/

namespace TexGlyph

/-- A text that has been spelled. -/
structure Spelling where
  /-- The fragments, in order. -/
  fragments : List String
  /-- The remarks, in order. -/
  notes : List LocatedNote
deriving DecidableEq, Repr

/-- The fragments as one text. -/
def Spelling.text (spelling : Spelling) : String := String.join spelling.fragments

/-- Several pieces of text that have been spelled one after the other. -/
structure Passage where
  /-- The spelling of each piece. -/
  pieces : List String
  /-- The remarks, in order. -/
  notes : List LocatedNote
  /-- The position after the last piece. -/
  next : Position
deriving DecidableEq, Repr

/-- The pieces as one text. -/
def Passage.text (passage : Passage) : String := String.join passage.pieces

namespace Speller

variable (s : Speller)

/-- Spells characters after the fragments of `stack`, the last one first, which end at
`position`. -/
def spellFrom (position : Position) :
    List Char → List String → List String × List LocatedNote
  | [], stack => (stack, [])
  | c :: cs, stack =>
    let here := position.advance 1
    let (stack, remarks) := Action.perform (s.actions c) stack
    let (stack, later) := spellFrom here cs stack
    (stack, remarks.map (⟨here, ·⟩) ++ later)

/-- Spells a text that begins after `position`. -/
def spell (position : Position) (text : String) : Spelling :=
  let (stack, notes) := s.spellFrom position text.toList []
  ⟨stack.reverse, notes⟩

/-- Spells pieces of text, each on a line of its own, with `ending` after each. -/
def spellEach (ending : String) (position : Position) : List String → Passage
  | [] => ⟨[], [], position⟩
  | piece :: pieces =>
    let spelling := s.spell position piece
    let rest := spellEach ending position.nextLine pieces
    ⟨(spelling.text ++ ending) :: rest.pieces, spelling.notes ++ rest.notes, rest.next⟩

/-- Spells a text line by line; the line breaks stay as they are. -/
def spellLines (position : Position) (text : String) : Passage :=
  s.spellEach "" position ((linesWithEnds text.toList).map String.ofList)

end Speller

end TexGlyph
