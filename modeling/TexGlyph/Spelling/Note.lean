import TexGlyph.Log
import TexGlyph.Spelling.Position
import TexGlyph.Unicode.Decomposition.Basic

/-!
# Notes on spelling

What a speller has to say about single characters: which rule it followed, and what it could not
spell.  A note is a value; its wording and its severity are decided here only.
-/

namespace TexGlyph

/-- A remark on the spelling of a character. -/
inductive Note where
  /-- The user's own command was written. -/
  | overridden (c : Char) (command : String)
  /-- The command of the lexicon was written. -/
  | symbol (c : Char) (command : String)
  /-- A mark had nothing before it that it could stand on. -/
  | strayMark (mark : Char)
  /-- The character is spelled by its decomposition. -/
  | decomposing (c : Char) (decomposition : Decomposition)
  /-- The text of a compatibility mapping is no spelling of the character. -/
  | unsupportedCompat (c : Char)
  /-- The tag of the mapping has no rendering. -/
  | unsupportedTag (tag : String) (c : Char)
  /-- The second character of a pair has no accent command. -/
  | unsupportedPair (c : Char)
  /-- The character has no spelling in ASCII. -/
  | unconvertible (c : Char)
deriving DecidableEq, Repr

namespace Note

/-- How much a note matters: what could not be spelled is a warning. -/
def severity : Note → Severity
  | overridden _ _ => .debug
  | symbol _ _ => .debug
  | decomposing _ _ => .trace
  | _ => .warn

/-- A character with its code point, as messages name it. -/
def named (c : Char) : String := Quoted.char c ++ " U+" ++ Hex.upper4 c.toNat

/-- The wording of a note. -/
def message : Note → String
  | overridden c command => "override " ++ named c ++ " " ++ command
  | symbol c command => "math " ++ named c ++ " " ++ command
  | strayMark mark => "accent " ++ Quoted.char mark ++ " with no preceding base"
  | decomposing c d => "decomposing " ++ Quoted.char c ++ " " ++ d.quoted
  | unsupportedCompat c => "unsupported <compat> decomposition of " ++ Quoted.char c
  | unsupportedTag tag c => "unsupported modifier '" ++ tag ++ "' in " ++ Quoted.char c
  | unsupportedPair c => "unsupported decomposition of " ++ Quoted.char c
  | unconvertible c => "could not convert " ++ named c ++ " to ascii"

end Note

/-- A note and the place of the character it is about. -/
structure LocatedNote where
  /-- The place. -/
  position : Position
  /-- The note. -/
  note : Note
deriving DecidableEq, Repr

/-- The line of the log for a note: the place comes first. -/
def LocatedNote.entry (n : LocatedNote) : LogEntry :=
  ⟨n.note.severity, n.position.shown ++ ": " ++ n.note.message⟩

end TexGlyph
