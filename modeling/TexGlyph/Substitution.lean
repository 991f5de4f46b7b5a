import TexGlyph.Latex.Token
import TexGlyph.Lexicon.Basic
import TexGlyph.Log
import TexGlyph.Text.Quoted

/-!
# Substitution of control sequences

The way back from LaTeX: control sequences and active characters that have a replacement are
replaced, and every other token stays as it was written.
-/

namespace TexGlyph

/-- Replaces control sequences by texts.  The keys include the backslash; an active character
`~` has the key `\active::~`. -/
structure Substitution where
  /-- The texts by key. -/
  replacements : ReplacementTable := ∅
deriving DecidableEq

/-- A replacement that took place. -/
structure Replacement where
  /-- The key of the token. -/
  key : String
  /-- The text that replaced it. -/
  text : String
deriving DecidableEq, Repr

/-- The line of the log for a replacement. -/
def Replacement.entry (r : Replacement) : LogEntry :=
  ⟨.trace, "replacing " ++ r.key ++ " with " ++ Quoted.string r.text⟩

namespace Substitution

/-- Adds a replacement; it wins over an earlier one with the same key. -/
def withReplacement (s : Substitution) (key text : String) : Substitution :=
  ⟨s.replacements.insert key text⟩

/-- Adds all replacements of a table. -/
def withTable (s : Substitution) (table : ReplacementTable) : Substitution :=
  table.toList.foldl (fun s (key, text) => s.withReplacement key text) s

/-- Replaces the symbols or the Greek letters of a lexicon, or both; of two meanings of a command
the Greek letter wins. -/
def ofLexicon (lexicon : Lexicon) (math greek : Bool) : Substitution :=
  let s : Substitution := if math then ⟨lexicon.symbolReplacements⟩ else {}
  if greek then s.withTable lexicon.greekReplacements else s

/-- The replacement of a token, if it has one. -/
def replacement? (s : Substitution) (token : Token) : Option Replacement :=
  token.key?.bind fun key => s.replacements[key]?.map (⟨key, ·⟩)

/-- The text that a token turns into. -/
def textOf (s : Substitution) (token : Token) : String :=
  match s.replacement? token with
  | some r => r.text
  | none => String.ofList token.source

/-- Replaces the tokens of a source. -/
def convert (s : Substitution) (source : String) : String :=
  String.join ((Token.scan source.toList).map s.textOf)

/-- The replacements that take place in a source, in order. -/
def log (s : Substitution) (source : String) : List Replacement :=
  (Token.scan source.toList).filterMap s.replacement?

end Substitution

end TexGlyph
