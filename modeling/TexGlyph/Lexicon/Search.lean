import TexGlyph.Files.Basic
import TexGlyph.Lexicon.Bundled
import TexGlyph.Lexicon.Standard

/-!
# Searching for definitions

Definitions are read from the paths that were asked for, all of which have to be readable, and
then from the files of a TeX installation, which may be missing.  An installation is asked through
its finder, a program that knows where files are; if that does not help, a fixed directory is
tried.  Where no source has symbols, the bundled definitions are added, so there always are some.
-/

namespace TexGlyph

/-- Where definitions are looked for. -/
structure SearchOptions where
  /-- Whether a TeX installation is searched. -/
  searchSystem : Bool := true
  /-- The directory that is tried where the finder does not help. -/
  fallbackDir : Option String := some "/usr/share/texlive/texmf-dist/tex/latex/unicode-math"
  /-- The paths that are read first. -/
  paths : List String := []
deriving DecidableEq, Repr

namespace SearchOptions

/-- Whether nothing but the usual places is searched, however the directory is written. -/
def isUsual (options : SearchOptions) : Bool :=
  let usual : SearchOptions := {}
  options.searchSystem = usual.searchSystem &&
    options.fallbackDir.map Path.components = usual.fallbackDir.map Path.components &&
    options.paths.isEmpty

end SearchOptions

/-- What a search can see. -/
structure Surroundings where
  /-- The files. -/
  files : Files
  /-- What the finder of the installation prints for the name of a file, if it knows it. -/
  finder : String → Option String := fun _ => none

/-- A remark on a search. -/
inductive SearchNote where
  /-- The finder does not know the file. -/
  | notFound (file : String)
  /-- The file is nowhere. -/
  | notLocated (file : String)
  /-- The file is read. -/
  | loaded (path : String)
  /-- The file cannot be read. -/
  | unreadable (path : String) (cause : FileFault)
  /-- No source has symbols. -/
  | bundled
deriving DecidableEq, Repr

/-- The line of the log for a remark. -/
def SearchNote.entry : SearchNote → LogEntry
  | notFound file => ⟨.debug, "kpsewhich: cannot locate " ++ file⟩
  | notLocated file => ⟨.warn, "cannot locate " ++ file⟩
  | loaded path => ⟨.debug, "using definitions from " ++ path⟩
  | unreadable path cause => ⟨.warn, "cannot read " ++ path ++ ": " ++ cause.message⟩
  | bundled => ⟨.debug, "no symbol table found, using the bundled definitions"⟩

namespace Search

/-- The files of an installation that hold definitions. -/
def systemFiles : List String := ["unicode-math-table.tex", "unicode-math-xetex.sty"]

variable (s : Surroundings)

/-- The file that the finder names, if it is there. -/
def find? (file : String) : Option String :=
  ((s.finder file).map fun line => String.ofList (trim line.toList)).filter s.files.isFile

/-- The path of a file of the installation. -/
def locate? (fallbackDir : Option String) (file : String) : Option String :=
  (find? s file).or ((fallbackDir.map (Path.join · file)).filter s.files.isFile)

/-- The remarks on locating a file. -/
def locateNotes (file : String) : List SearchNote :=
  if (find? s file).isSome then [] else [.notFound file]

/-- Reads the definitions of a file. -/
def load (path : String) : Except FileFault Definitions :=
  (s.files.readText path).map (Definitions.ofText path)

/-- The definitions of a file of the installation, if there are any, and the remarks. -/
def system (fallbackDir : Option String) (file : String) : Option Definitions × List SearchNote :=
  let notes := locateNotes s file
  match locate? s fallbackDir file with
  | none => (none, notes ++ [.notLocated file])
  | some path =>
    match load s path with
    | .ok d => (some d, notes ++ [.loaded path])
    | .error cause => (none, notes ++ [.unreadable path cause])

/-- The definitions of the paths that were asked for; the first that cannot be read is a
fault. -/
def explicit : List String → Except Fault (List Definitions)
  | [] => .ok []
  | path :: paths =>
    match load s path with
    | .ok d => (explicit paths).map (d :: ·)
    | .error cause => .error (.definitions path cause)

/-- The definitions that a search finds and the remarks on it, in order. -/
def run (options : SearchOptions) : Except Fault (List Definitions × List SearchNote) :=
  (explicit s options.paths).map fun asked =>
    let found := if options.searchSystem then systemFiles.map (system s options.fallbackDir) else []
    let sources := asked ++ found.filterMap (·.1)
    let notes := found.flatMap (·.2)
    if sources.any (·.hasSymbols) then (sources, notes)
    else (sources ++ [.bundledSymbols, .bundledAliases], notes ++ [.bundled])

end Search

/-- The lexicon of the usual search; the bundled definitions stand in for a search that fails. -/
def Lexicon.ofUsualSearch (s : Surroundings) : Lexicon :=
  match Search.run s {} with
  | .ok (sources, _) => build .usual sources
  | .error _ => standard

/-- What there is to say about the making of the lexicon of the usual search. -/
def Lexicon.usualSearchLog (s : Surroundings) : List LogEntry :=
  match Search.run s {} with
  | .ok (sources, notes) => notes.map (·.entry) ++ (buildNotes .usual sources).map (·.entry)
  | .error fault =>
    ⟨.warn, fault.message⟩ :: (buildNotes .usual [.bundledSymbols, .bundledAliases]).map (·.entry)

end TexGlyph
