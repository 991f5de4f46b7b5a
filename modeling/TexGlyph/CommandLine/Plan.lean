import TexGlyph.CommandLine.Request
import TexGlyph.Config.Loading
import TexGlyph.Encoding.Basic
import TexGlyph.Lexicon.Dump
import TexGlyph.Spelling.Text

/-!
# Plans

What a request comes to: a text and the place it goes to, or a fault.  A plan is made without
changing anything, so a request that cannot be served leaves everything as it was.

Faults come in the order configuration, lexicon, encoding, source, overrides, input; the lexicon
is shown before anything is asked about the source.
-/

namespace TexGlyph.CommandLine

/-- Where the text to convert comes from. -/
inductive Source where
  /-- From the command line. -/
  | texts (texts : List String)
  /-- From a file. -/
  | file (path : String)
  /-- From standard input. -/
  | stdin
deriving DecidableEq, Repr

/-- The name of a source in reports. -/
def Source.label : Source → String
  | texts _ => "cmdline"
  | file path => path
  | stdin => "stdin"

/-- Why a request cannot be served. -/
inductive RunFault where
  /-- The configuration cannot be loaded. -/
  | configuration (cause : ConfigFault)
  /-- The definitions or the overrides are of no use. -/
  | request (cause : Fault)
  /-- The input cannot be decoded. -/
  | decoding (cause : InputFault)
  /-- There is no source, or more than one. -/
  | source
  /-- A file cannot be read. -/
  | reading (path : String) (cause : FileFault)
  /-- Standard input cannot be read. -/
  | readingInput (cause : FileFault)
  /-- A file cannot be written. -/
  | writing (path : String) (cause : FileFault)
  /-- Standard output does not take all of the text. -/
  | writingOutput (cause : FileFault)
deriving DecidableEq, Repr

/-- The wording of a fault. -/
def RunFault.message : RunFault → String
  | configuration cause => "Failed to load configuration: " ++ cause.message
  | request cause => "Error: " ++ cause.message
  | decoding cause => "Error: " ++ cause.message
  | source => "Error: give exactly one of TEXT, --input or --stdin"
  | reading path cause => "Error reading file '" ++ path ++ "': " ++ cause.message
  | readingInput cause => "Error reading stdin: " ++ cause.message
  | writing path cause => "Error writing file '" ++ path ++ "': " ++ cause.message
  | writingOutput cause => "Error writing output: " ++ cause.message

/-- What a run can see. -/
structure Environment where
  /-- The files and the installation. -/
  surroundings : Surroundings
  /-- The bytes of standard input, or why they cannot be read. -/
  input : Except FileFault (List UInt8)

/-- A text with the reports of its making. -/
structure Product where
  /-- The text. -/
  text : String
  /-- The reports, in order. -/
  log : List LogEntry := []
deriving DecidableEq, Repr

/-- What is to be done. -/
structure Plan where
  /-- The text to write, and the reports. -/
  product : Product
  /-- The file it goes to; without one it is shown. -/
  target : Option String
deriving DecidableEq, Repr

/-- The file of settings that is used where there is one. -/
def localConfig : String := "u2l.toml"

namespace Request

variable (r : Request) (e : Environment)

/-- The files of settings of a request. -/
def layers : List ConfigLayer :=
  ⟨localConfig, false⟩ :: ((r.value? .config).map fun path => (⟨path, true⟩ : ConfigLayer)).toList

/-- The file that a request writes; a hyphen stands for standard output. -/
def target? : Option String := (r.value? .output).filter (· ≠ "-")

/-- How the input of a request is read. -/
def encoding : Except RunFault InputEncoding :=
  match r.value? .inputEncoding with
  | some label => (InputEncoding.ofLabel label).mapError .decoding
  | none => .ok .usual

/-- The source of a request, if there is exactly one. -/
def source : Except RunFault Source :=
  match r.texts, r.value? .input, r.has .stdin with
  | t :: ts, none, false => .ok (.texts (t :: ts))
  | [], some path, false => .ok (.file path)
  | [], none, true => .ok .stdin
  | _, _, _ => .error .source

/-- The preferences of a configuration with the options of a request over them. -/
def adjust (p : Preferences) : Preferences :=
  { p with
    fonts := p.fonts && !r.has .noFonts
    accents := p.accents && !r.has .noAccents
    preferMath := p.preferMath || r.has .preferMath
    accentMode := r.accentMode?.getD p.accentMode
    quotes := p.quotes || r.has .quotes
    dashes := p.dashes || r.has .dashes }

/-- The substitution of a configuration with the options of a request over it. -/
def adjustSubstitution (c : SubstitutionConfig) : SubstitutionConfig :=
  { c with math := c.math || r.has .math, greek := c.greek || r.has .greek }

end Request

namespace Source

/-- Decodes bytes. -/
def decode (encoding : InputEncoding) (bytes : List UInt8) : Except RunFault DecodedInput :=
  (encoding.decode bytes).mapError .decoding

/-- The text of a source; texts of the command line are joined by blanks. -/
def read (e : Environment) (encoding : InputEncoding) : Source → Except RunFault DecodedInput
  | texts lines => .ok ⟨" ".intercalate lines, []⟩
  | file path =>
    match e.surroundings.files.read path with
    | .ok bytes => decode encoding bytes
    | .error cause => .error (.reading path cause)
  | stdin =>
    match e.input with
    | .ok bytes => decode encoding bytes
    | .error cause => .error (.readingInput cause)

/-- Spells a source.  A text of the command line is a line of its own; other input keeps its
lines. -/
def spell (e : Environment) (speller : Speller) (encoding : InputEncoding) (source : Source) :
    Except RunFault Product :=
  let start : Position := { input := source.label }
  match source with
  | texts lines =>
    let passage := speller.spellEach "\n" start lines
    .ok ⟨passage.text, passage.notes.map (·.entry)⟩
  | source =>
    (source.read e encoding).map fun input =>
      let passage := speller.spellLines start input.text
      ⟨passage.text, input.notes.map (·.entry) ++ passage.notes.map (·.entry)⟩

/-- Substitutes in a source.  Texts of the command line get a line break at the end. -/
def substitute (e : Environment) (s : Substitution) (encoding : InputEncoding) (source : Source) :
    Except RunFault Product :=
  (source.read e encoding).map fun input =>
    let ending := match source with
      | texts _ => "\n"
      | _ => ""
    ⟨s.convert input.text ++ ending,
      input.notes.map (·.entry) ++ (s.log input.text).map (·.entry)⟩

end Source

namespace Request

variable (program : Program) (r : Request) (e : Environment)

/-- Converts the source of a request. -/
def convert (config : Configuration) (lexicon : Lexicon) : Except RunFault Product := do
  let encoding ← r.encoding
  let source ← r.source
  match program with
  | .toLatex =>
    let preferences ← config.spelling.preferences.mapError RunFault.request
    source.spell e ⟨r.adjust preferences, lexicon⟩ encoding
  | .toUnicode =>
    source.substitute e ((r.adjustSubstitution config.substitution).substitution lexicon) encoding

/-- The plan for a request. -/
def plan : Except RunFault Plan := do
  let config ← (Configuration.load e.surroundings.files r.layers).mapError RunFault.configuration
  let lexicon ← (config.lexicon e.surroundings).mapError RunFault.request
  let product ←
    if r.has .dumpTables then .ok ⟨lexicon.json.text ++ "\n", []⟩
    else r.convert program e config lexicon
  let log := config.lexiconLog e.surroundings false ++ product.log
  return ⟨{ product with log }, r.target?⟩

end Request

end TexGlyph.CommandLine
