import Std.Data.ExtTreeMap
import TexGlyph.Fault
import TexGlyph.Latex.Accent
import TexGlyph.Text.Hex

/-!
# Preferences of a speller

What the user decides about the spelling of characters: which rules apply, how accents are
spelled, and commands of the user's own, which come before the library's.
-/

namespace TexGlyph

/-- The accent mode of the given name, or the fault of the name. -/
def AccentMode.ofName (name : String) : Except Fault AccentMode :=
  match ofName? name with
  | some mode => .ok mode
  | none => .error (.accentMode name)

/-- Commands by the character they are written for. -/
abbrev Overrides := Std.ExtTreeMap Char String compare

/-- The choices a speller is made with. -/
structure Preferences where
  /-- Whether styled letters are wrapped in font commands. -/
  fonts : Bool := true
  /-- Whether combining marks and accented letters become accent commands. -/
  accents : Bool := true
  /-- Whether the command of a formula comes before a decomposition. -/
  preferMath : Bool := false
  /-- Which accent commands are written. -/
  accentMode : AccentMode := .text
  /-- Whether typographic quotes get their ASCII spelling. -/
  quotes : Bool := false
  /-- Whether dashes and the no-break space get their ASCII spelling. -/
  dashes : Bool := false
  /-- The user's own commands. -/
  overrides : Overrides := ∅

namespace Preferences

/-- Removes the mark in front of a written code point: `U+`, `u+`, `0x` or `0X`. -/
def withoutMark? : List Char → Option (List Char)
  | 'U' :: '+' :: digits => some digits
  | 'u' :: '+' :: digits => some digits
  | '0' :: 'x' :: digits => some digits
  | '0' :: 'X' :: digits => some digits
  | _ => none

/-- The character that the key of an override stands for: a key of one character stands for
that character, and any other has to be a marked code point. -/
def keyed? (key : String) : Option Char :=
  match key.toList with
  | [c] => some c
  | cs => (withoutMark? cs).bind Hex.scalar?

/-- The character that the key of an override stands for, or the fault of the key. -/
def keyed (key : String) : Except Fault Char :=
  match keyed? key with
  | some c => .ok c
  | none => .error (.codepoint key)

/-- Adds a command of the user; a later one for the same character replaces it. -/
def withOverride (p : Preferences) (c : Char) (command : String) : Preferences :=
  { p with overrides := p.overrides.insert c command }

end Preferences

end TexGlyph
