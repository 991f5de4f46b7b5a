import TexGlyph.Lexicon.Definition.Alias
import TexGlyph.Lexicon.Definition.Record
import TexGlyph.Text.Lines

/-!
# Definitions

The definitions of a file are its symbol records and its aliases; all other lines are ignored.
A line that begins like a record and cannot be read as one is kept as malformed, so that it can be
reported.
-/

namespace TexGlyph

/-- A line that begins with the keyword of records and cannot be read. -/
structure MalformedLine where
  /-- The number of the line, counted from one. -/
  number : Nat
  /-- The line without the blanks at its ends. -/
  text : String
deriving DecidableEq, Repr

/-- What a file defines. -/
structure Definitions where
  /-- The name of the file, for reports. -/
  name : String
  /-- The symbol records, in order. -/
  records : List SymbolRecord := []
  /-- The aliases, in order. -/
  aliases : List Alias := []
  /-- The lines that should have been records. -/
  malformed : List MalformedLine := []
deriving DecidableEq, Repr

/-- What a line says that begins with the keyword of records. -/
def recordLine? (number : Nat) (line : List Char) : Option (MalformedLine ⊕ SymbolRecord) :=
  (SymbolRecord.afterKeyword? line).map fun rest =>
    match SymbolRecord.read? rest with
    | some r => .inr r
    | none => .inl ⟨number, String.ofList (trim line)⟩

/-- What the record lines of a file say, the first line having the given number. -/
def recordLines (number : Nat) : List (List Char) → List (MalformedLine ⊕ SymbolRecord)
  | [] => []
  | line :: lines => (recordLine? number line).toList ++ recordLines (number + 1) lines

namespace Definitions

/-- Reads the text of a definition file. -/
def ofText (name text : String) : Definitions :=
  let lines := lines text.toList
  let found := recordLines 1 lines
  { name
    records := found.filterMap Sum.getRight?
    aliases := lines.flatMap Alias.ofLine
    malformed := found.filterMap Sum.getLeft? }

/-- Whether any line looks like a symbol record. -/
def hasSymbols (d : Definitions) : Bool := !d.records.isEmpty || !d.malformed.isEmpty

end Definitions

end TexGlyph
