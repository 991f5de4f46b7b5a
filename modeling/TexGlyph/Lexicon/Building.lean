import TexGlyph.Lexicon.Basic
import TexGlyph.Lexicon.Definition.Basic
import TexGlyph.Lexicon.Preset
import TexGlyph.Lexicon.Report
import TexGlyph.Unicode.Block

/-!
# Making a lexicon

A lexicon starts from a preset and takes definitions one by one: first the symbol records of every
source in order, then the aliases of every source, so that an alias can stand before the record of
its target.  Finishing derives the respellings, which depend on everything before.

Every step only adds entries, at the end of lists, so what is canonical stays canonical.
-/

namespace TexGlyph

/-- One definition, or a line that should have been one. -/
inductive LexiconStep where
  /-- A symbol record. -/
  | record (r : SymbolRecord)
  /-- An alias and the name of the source it stands in. -/
  | synonym (source : String) (a : Alias)
  /-- A malformed line and the name of the source it stands in. -/
  | malformed (source : String) (line : MalformedLine)
deriving DecidableEq, Repr

namespace LexiconStep

/-- The definitions of several sources in the order in which they take effect. -/
def ofSources (sources : List Definitions) : List LexiconStep :=
  sources.flatMap (fun d => d.malformed.map (malformed d.name) ++ d.records.map record) ++
    sources.flatMap (fun d => d.aliases.map (synonym d.name))

end LexiconStep

namespace Lexicon

/-- The lexicon of a preset alone.  Later entries replace earlier ones with the same key. -/
def ofPreset (preset : Preset) : Lexicon where
  commands := preset.symbols.foldl (fun t (c, command) => t.insert c [command]) ∅
  meanings :=
    preset.meanings.foldl (fun t (command, c) => t.insert command [c])
      (preset.symbols.foldl (fun t (c, command) => t.insert command [c]) ∅)
  greek := preset.greek.foldl (fun t (command, c) => t.insert command [c]) ∅

/-- The meanings of a record's own command: a command without meanings gets none from a
character that the preset keeps out. -/
def addMeaning (preset : Preset) (r : SymbolRecord) (table : MeaningTable) : MeaningTable :=
  if table.contains r.command then addEntry table r.command r.codepoint
  else if preset.oneWay.contains r.codepoint then table
  else table.insert r.command [r.codepoint]

/-- The meanings of all commands that a record names. -/
def addMeanings (preset : Preset) (r : SymbolRecord) (table : MeaningTable) : MeaningTable :=
  r.infoAliases.foldl (fun t name => addEntry t name r.codepoint) (addMeaning preset r table)

/-- Takes a symbol record into the tables of accents or into those of symbols. -/
def addRecord (preset : Preset) (lexicon : Lexicon) (r : SymbolRecord) : Lexicon :=
  if r.isAccent then
    { lexicon with
      accentCommands := addEntry lexicon.accentCommands r.codepoint r.command
      accentMeanings := addMeanings preset r lexicon.accentMeanings }
  else
    { lexicon with
      commands := addEntry lexicon.commands r.codepoint r.command
      meanings := addMeanings preset r lexicon.meanings }

/-- What there is to say about taking a symbol record. -/
def recordNotes (preset : Preset) (lexicon : Lexicon) (r : SymbolRecord) : List LexiconNote :=
  let table := if r.isAccent then lexicon.accentMeanings else lexicon.meanings
  (if r.isAccent && !isAccentBlock r.codepoint.toNat then [.strangeAccent r.command r.codepoint]
    else []) ++
  (if table.contains r.command then []
    else if preset.oneWay.contains r.codepoint then [.skipped r.command r.codepoint]
    else [.assigned r.command r.codepoint r.category])

/-- Lets the name of an alias stand for every character of its target. -/
def addAlias (lexicon : Lexicon) (a : Alias) : Lexicon :=
  match lexicon.meanings[a.target]? with
  | none => lexicon
  | some meanings =>
    { lexicon with meanings := meanings.foldl (addEntry · a.name ·) lexicon.meanings }

/-- What there is to say about taking an alias. -/
def aliasNotes (lexicon : Lexicon) (source : String) (a : Alias) : List LexiconNote :=
  if lexicon.meanings.contains a.target then [.aliased source a.target a.name]
  else [.unknownTarget source a.target a.name]

/-- The lexicon after a step. -/
def step (preset : Preset) (lexicon : Lexicon) : LexiconStep → Lexicon
  | .record r => lexicon.addRecord preset r
  | .synonym _ a => lexicon.addAlias a
  | .malformed _ _ => lexicon

/-- What there is to say about a step. -/
def stepNotes (preset : Preset) (lexicon : Lexicon) : LexiconStep → List LexiconNote
  | .record r => lexicon.recordNotes preset r
  | .synonym source a => lexicon.aliasNotes source a
  | .malformed source line => [.malformed source line.number line.text]

/-- The lexicon after several steps. -/
def steps (preset : Preset) (lexicon : Lexicon) (steps : List LexiconStep) : Lexicon :=
  steps.foldl (step preset) lexicon

/-- What there is to say about several steps. -/
def stepsNotes (preset : Preset) (lexicon : Lexicon) : List LexiconStep → List LexiconNote
  | [] => []
  | s :: rest => lexicon.stepNotes preset s ++ (lexicon.step preset s).stepsNotes preset rest

/-- The canonical command for the canonical meaning of a command, if it is a different one. -/
def respelling? (lexicon : Lexicon) (command : String) (meanings : List Char) : Option String :=
  (meanings.head?.bind lexicon.canonical?).filter (· ≠ command)

/-- Derives the respellings. -/
def finish (lexicon : Lexicon) : Lexicon :=
  { lexicon with
    respellings := lexicon.meanings.toList.foldl (fun table (command, meanings) =>
      match lexicon.respelling? command meanings with
      | some canonical => table.insert command canonical
      | none => table) ∅ }

/-- What there is to say about the finished tables. -/
def finishNotes (lexicon : Lexicon) : List LexiconNote :=
  lexicon.commands.toList.filterMap (fun (c, commands) =>
    if 1 < commands.length then some (.manyCommands c commands) else none) ++
  lexicon.meanings.toList.filterMap (fun (command, meanings) =>
    if 1 < meanings.length then some (.manyMeanings command meanings) else none)

/-- The lexicon of a preset and several sources. -/
def build (preset : Preset) (sources : List Definitions) : Lexicon :=
  ((ofPreset preset).steps preset (LexiconStep.ofSources sources)).finish

/-- What there is to say about the making of a lexicon, in order. -/
def buildNotes (preset : Preset) (sources : List Definitions) : List LexiconNote :=
  let steps := LexiconStep.ofSources sources
  (ofPreset preset).stepsNotes preset steps ++ ((ofPreset preset).steps preset steps).finishNotes

end Lexicon

end TexGlyph
