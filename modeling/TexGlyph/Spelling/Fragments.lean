import TexGlyph.Latex.Accent
import TexGlyph.Spelling.Note

/-!
# Fragments

The spelling of a text is a list of fragments, about one for each character.  A combining mark
takes the fragment before it as its base, so the spelling of a character is not a text but a list
of actions on the fragments so far: write one more, or put an accent over the last.

The fragments so far are kept with the last one first.
-/

namespace TexGlyph

/-- One step in the spelling of a character. -/
inductive Action where
  /-- Makes a remark. -/
  | note (n : Note)
  /-- Adds a fragment. -/
  | write (fragment : String)
  /-- Puts an accent command over the last fragment, or over a blank if there is none. -/
  | accent (mark : Char) (command : String)
deriving DecidableEq, Repr

namespace Action

/-- The fragments after an action. -/
def apply : Action → List String → List String
  | note _, stack => stack
  | write fragment, stack => fragment :: stack
  | accent _ command, base :: stack => applied command base :: stack
  | accent _ command, [] => [applied command " "]

/-- The remarks of an action on the given fragments. -/
def notes : Action → List String → List Note
  | note n, _ => [n]
  | accent mark _, [] => [.strayMark mark]
  | _, _ => []

/-- Performs actions in order; gives the fragments and the remarks. -/
def perform : List Action → List String → List String × List Note
  | [], stack => (stack, [])
  | action :: actions, stack =>
    let (stack', later) := perform actions (action.apply stack)
    (stack', action.notes stack ++ later)

/-- The text of fragments that are kept with the last one first. -/
def textOf (stack : List String) : String := String.join stack.reverse

/-- The text and the remarks of actions that start without fragments. -/
def apart (actions : List Action) : String × List Note :=
  let (stack, remarks) := perform actions []
  (textOf stack, remarks)

/-- Actions that spell a text apart from the fragments so far and write `wrap` of it as one
fragment. -/
def enclose (actions : List Action) (wrap : String → String) : List Action :=
  let (text, remarks) := apart actions
  remarks.map note ++ [write (wrap text)]

/-- Like `enclose`, with two texts, the first spelled before the second. -/
def enclosePair (first second : List Action) (wrap : String → String → String) : List Action :=
  let (text₁, remarks₁) := apart first
  let (text₂, remarks₂) := apart second
  (remarks₁ ++ remarks₂).map note ++ [write (wrap text₁ text₂)]

theorem perform_append (first second : List Action) (stack : List String) :
    perform (first ++ second) stack =
      ((perform second (perform first stack).1).1,
        (perform first stack).2 ++ (perform second (perform first stack).1).2) := by
  induction first generalizing stack with
  | nil => simp [perform]
  | cons action first ih => simp [perform, ih]

end Action

end TexGlyph
