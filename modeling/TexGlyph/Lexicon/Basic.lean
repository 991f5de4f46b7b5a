import Std.Data.ExtTreeMap

/-!
# The lexicon

The lexicon relates characters and commands in both directions.  One character may have several
commands and one command several characters; the first entry of a list is the canonical one, and
later entries are kept in the order they were found.

Commands of accents have tables of their own, because an accent command takes an argument and
can stand for its mark only together with it.
-/

namespace TexGlyph

/-- The commands of each character, the canonical one first. -/
abbrev CommandTable := Std.ExtTreeMap Char (List String) compare

/-- The characters of each command, the canonical one first.  Commands include their
backslash. -/
abbrev MeaningTable := Std.ExtTreeMap String (List Char) compare

/-- Texts by the command or name that they replace. -/
abbrev ReplacementTable := Std.ExtTreeMap String String compare

/-- Appends an entry to the list of a key unless the list has it already. -/
def addEntry {κ α : Type} [Ord κ] [Std.TransOrd κ] [BEq α] (table : Std.ExtTreeMap κ (List α) compare)
    (key : κ) (entry : α) : Std.ExtTreeMap κ (List α) compare :=
  let entries := table[key]?.getD []
  if entries.contains entry then table else table.insert key (entries ++ [entry])

/-- The tables that both directions of conversion look things up in. -/
structure Lexicon where
  /-- The symbol commands of each character. -/
  commands : CommandTable := ∅
  /-- The characters of each symbol command. -/
  meanings : MeaningTable := ∅
  /-- The accent commands of each combining mark. -/
  accentCommands : CommandTable := ∅
  /-- The combining marks of each accent command. -/
  accentMeanings : MeaningTable := ∅
  /-- The letters of each command for a Greek letter. -/
  greek : MeaningTable := ∅
  /-- The canonical command of each symbol command that is not canonical itself. -/
  respellings : ReplacementTable := ∅
deriving DecidableEq

namespace Lexicon

/-- The canonical symbol command of a character. -/
def canonical? (lexicon : Lexicon) (c : Char) : Option String :=
  lexicon.commands[c]?.bind List.head?

/-- Every command of a table with its canonical character. -/
def firstMeanings (table : MeaningTable) : ReplacementTable :=
  table.toList.foldl (fun texts (command, meanings) =>
    match meanings with
    | [] => texts
    | c :: _ => texts.insert command (String.ofList [c])) ∅

/-- The character that each symbol command is replaced by. -/
def symbolReplacements (lexicon : Lexicon) : ReplacementTable := firstMeanings lexicon.meanings

/-- The letter that each command for a Greek letter is replaced by. -/
def greekReplacements (lexicon : Lexicon) : ReplacementTable := firstMeanings lexicon.greek

end Lexicon

end TexGlyph
