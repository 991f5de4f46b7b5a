import TexGlyph.Log
import TexGlyph.Text.Hex
import TexGlyph.Text.Quoted

/-!
# Reports on the making of a lexicon

What there is to say about single definitions and about the finished tables.
-/

namespace TexGlyph

/-- A remark on the making of a lexicon. -/
inductive LexiconNote where
  /-- A line should have been a symbol record. -/
  | malformed (source : String) (line : Nat) (text : String)
  /-- The character of an accent is no combining mark of the usual blocks. -/
  | strangeAccent (command : String) (c : Char)
  /-- The command is not turned back into its character. -/
  | skipped (command : String) (c : Char)
  /-- The command has got its first character. -/
  | assigned (command : String) (c : Char) (category : String)
  /-- The target of an alias has no characters. -/
  | unknownTarget (source target name : String)
  /-- An alias accepts the characters of its target. -/
  | aliased (source target name : String)
  /-- A character has several commands. -/
  | manyCommands (c : Char) (commands : List String)
  /-- A command has several characters. -/
  | manyMeanings (command : String) (meanings : List Char)
deriving DecidableEq, Repr

namespace LexiconNote

/-- How much a remark matters. -/
def severity : LexiconNote → Severity
  | malformed _ _ _ => .warn
  | strangeAccent _ _ => .warn
  | manyCommands _ _ => .info
  | manyMeanings _ _ => .info
  | _ => .trace

/-- A code point as reports write it. -/
def code (c : Char) : String := "0x" ++ Hex.lower c.toNat

/-- The wording of a remark. -/
def message : LexiconNote → String
  | malformed source line text =>
    source ++ ":" ++ toString line ++ ": malformed symbol record: " ++ text
  | strangeAccent command c =>
    "accent " ++ command ++ " code " ++ code c ++ " out of the combining diacritical blocks"
  | skipped command c => "skip " ++ command ++ " " ++ code c
  | assigned command c category =>
    "assign " ++ command ++ " -> " ++ code c ++ " (" ++ category ++ ")"
  | unknownTarget source target name =>
    source ++ ": unknown " ++ target ++ " in alias for " ++ name
  | aliased source target name => source ++ ": added " ++ name ++ " for " ++ target
  | manyCommands c commands =>
    "multiple unicode to latex, " ++ code c ++ " -> " ++ Quoted.strings commands
  | manyMeanings command meanings =>
    "multiple latex to unicode, " ++ command ++ " -> " ++ Quoted.chars meanings

/-- The line of the log for a remark. -/
def entry (n : LexiconNote) : LogEntry := ⟨n.severity, n.message⟩

end LexiconNote

end TexGlyph
