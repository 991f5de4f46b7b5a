import TexGlyph.Config.Basic
import TexGlyph.Proofs.Files.Spelling
import TexGlyph.Proofs.Lexicon.Canonical

/-!
# The lexicon of a search

Only a path that was asked for can make a search fail (`Search.map_run`), and the usual search asks
for none, so the definitions that stand in for a search that fails are never used.  A lexicon does
not depend on the names of its sources (`Lexicon.build_unnamed`), so it does not matter how the
usual directory is spelled either (`Search.textIn_congr`).  The lexicon that is kept for the usual
search is therefore the one that the configuration would get from its own search
(`Configuration.lexicon_eq_build`), unless it spells the directory at such length that nothing in it
can be found (`Configuration.lexicon_ne_build_overlong`).
-/

namespace TexGlyph

/-! ### Names of sources -/

/-- Definitions without the name of their source. -/
def Definitions.unnamed (d : Definitions) : Definitions := { d with name := "" }

/-- A step without the name of its source. -/
def LexiconStep.unnamed : LexiconStep → LexiconStep
  | record r => record r
  | synonym _ a => synonym "" a
  | malformed _ line => malformed "" line

theorem LexiconStep.ofSources_unnamed (sources : List Definitions) :
    ofSources (sources.map Definitions.unnamed) = (ofSources sources).map unnamed := by
  simp only [ofSources, List.flatMap_map, List.map_append, List.map_flatMap, List.map_map]
  rfl

namespace Lexicon

theorem step_unnamed (preset : Preset) (lexicon : Lexicon) (s : LexiconStep) :
    lexicon.step preset s.unnamed = lexicon.step preset s := by
  cases s <;> rfl

/-- The names of the sources only matter for reports. -/
theorem build_unnamed (preset : Preset) (sources : List Definitions) :
    build preset (sources.map Definitions.unnamed) = build preset sources := by
  rw [build, build, steps, steps, LexiconStep.ofSources_unnamed, List.foldl_map]
  simp only [step_unnamed]

/-- Sources with the same definitions under other names give the same lexicon. -/
theorem build_congr (preset : Preset) {sources sources' : List Definitions}
    (h : sources.map Definitions.unnamed = sources'.map Definitions.unnamed) :
    build preset sources = build preset sources' := by
  rw [← build_unnamed, h, build_unnamed]

end Lexicon

/-! ### Searches -/

namespace Search

variable {s : Surroundings}

/-- The definitions of the installation. -/
def found (s : Surroundings) (options : SearchOptions) : List Definitions :=
  (if options.searchSystem then systemFiles.map (system s options.fallbackDir) else []).filterMap
    (·.1)

/-- Definitions with the bundled ones, if they have no symbols. -/
def withBundled (sources : List Definitions) : List Definitions :=
  if sources.any (·.hasSymbols) then sources
  else sources ++ [.bundledSymbols, .bundledAliases]

/-- **A search fails only at a path that was asked for**, whatever the installation is like. -/
theorem map_run (s : Surroundings) (options : SearchOptions) :
    (run s options).map (·.1) =
      (explicit s options.paths).map fun asked => withBundled (asked ++ found s options) := by
  rw [run]
  cases explicit s options.paths with
  | error fault => rfl
  | ok asked => exact congrArg Except.ok (apply_ite Prod.fst _ _ _)

/-- A search that asks for no path gives a result. -/
theorem exists_run_eq_ok (s : Surroundings) (options : SearchOptions) (h : options.paths = []) :
    ∃ notes, run s options = .ok (withBundled (found s options), notes) := by
  have hrun : (run s options).map (·.1) = .ok (withBundled (found s options)) := by
    rw [map_run, h]
    rfl
  obtain ⟨result, hresult, hsources⟩ := exists_of_map_eq_ok hrun
  exact ⟨result.2, by rw [hresult, hsources]⟩

/-- Whether the bundled definitions are needed does not depend on names. -/
theorem withBundled_congr {sources sources' : List Definitions}
    (h : sources.map Definitions.unnamed = sources'.map Definitions.unnamed) :
    (withBundled sources).map Definitions.unnamed =
      (withBundled sources').map Definitions.unnamed := by
  have hany : ∀ l : List Definitions,
      l.any (·.hasSymbols) = (l.map Definitions.unnamed).any (·.hasSymbols) := by
    intro l
    rw [List.any_map]
    rfl
  rw [withBundled, withBundled, hany sources, hany sources', h]
  split
  · exact h
  · rw [List.map_append, List.map_append, h]

/-! ### Directories -/

/-- The text of a file in a directory, if there is such a file. -/
def textIn (s : Surroundings) (directory : Option String) (file : String) :
    Option (Except FileFault String) :=
  ((directory.map (Path.join · file)).filter s.files.isFile).map s.files.readText

/-- The definitions of a file of the installation come from its text, wherever that is. -/
theorem system_unnamed (s : Surroundings) (directory : Option String) (file : String) :
    (system s directory file).1.map Definitions.unnamed =
      (((find? s file).map s.files.readText).or (textIn s directory file)).bind fun text =>
        text.toOption.map fun text => (Definitions.ofText "" text).unnamed := by
  have htext : ((find? s file).map s.files.readText).or (textIn s directory file) =
      (locate? s directory file).map s.files.readText := by
    rw [locate?, textIn, Option.map_or]
  rw [htext, system]
  cases locate? s directory file with
  | none => rfl
  | some path =>
    simp only [load, Option.map_some, Option.bind_some]
    cases s.files.readText path <;> rfl

theorem isName_of_mem_systemFiles {file : String} (h : file ∈ systemFiles) : Path.IsName file := by
  have hall : ∀ file ∈ systemFiles, Path.parts file = [file] ∧ Path.isEmptyPart file = false := by
    decide +kernel
  exact ⟨(hall file h).1, (hall file h).2⟩

/-- Whether no path of a file of the installation in a directory is too long to be followed. -/
def HasRoom (directory : Option String) : Prop :=
  ∀ d ∈ directory, ∀ file ∈ systemFiles, (Path.join d file).utf8ByteSize ≤ FileTree.maxPathSize

/-- **It does not matter how a directory is spelled**, as long as its files can be found. -/
theorem textIn_congr (hfiles : s.files.IgnoresSpelling) {directory directory' : Option String}
    (h : directory.map Path.components = directory'.map Path.components)
    (hroom : HasRoom directory) (hroom' : HasRoom directory') {file : String}
    (hfile : file ∈ systemFiles) : textIn s directory file = textIn s directory' file := by
  cases directory with
  | none =>
    rw [Option.map_eq_none_iff.1 h.symm]
  | some d =>
    obtain ⟨d', rfl, hd⟩ := Option.map_eq_some_iff.1 h.symm
    have hname := isName_of_mem_systemFiles hfile
    have hpath : Path.IsFollowable (Path.join d file) :=
      ⟨hname.endsInName_join d, hroom d rfl file hfile⟩
    have hpath' : Path.IsFollowable (Path.join d' file) :=
      ⟨hname.endsInName_join d', hroom' d' rfl file hfile⟩
    have hcomponents : Path.components (Path.join d file) = Path.components (Path.join d' file) := by
      rw [hname.components_join, hname.components_join, hd]
    have htext : s.files.readText (Path.join d file) = s.files.readText (Path.join d' file) := by
      rw [Files.readText, Files.readText, hfiles.read hcomponents hpath hpath']
    simp only [textIn, Option.map_some, Option.filter_some,
      hfiles.isFile hcomponents hpath hpath']
    split
    · exact congrArg some htext
    · rfl

/-- Where no file of the installation is located, there are no definitions of it. -/
theorem found_eq_nil {options : SearchOptions}
    (h : ∀ file ∈ systemFiles, locate? s options.fallbackDir file = none) :
    found s options = [] := by
  rw [found, List.filterMap_eq_nil_iff]
  intro result hresult
  split at hresult
  · obtain ⟨file, hfile, rfl⟩ := List.mem_map.1 hresult
    rw [system, h file hfile]
  · cases hresult

/-- Where the texts of the installation are the same, its definitions are. -/
theorem found_congr {options options' : SearchOptions}
    (hsystem : options.searchSystem = options'.searchSystem)
    (h : ∀ file ∈ systemFiles,
      textIn s options.fallbackDir file = textIn s options'.fallbackDir file) :
    (found s options).map Definitions.unnamed = (found s options').map Definitions.unnamed := by
  rw [found, found, hsystem]
  cases options'.searchSystem with
  | false => rfl
  | true =>
    rw [if_pos rfl, if_pos rfl, List.filterMap_map, List.filterMap_map, List.map_filterMap,
      List.map_filterMap]
    refine List.filterMap_congr fun file hfile => ?_
    change (system s options.fallbackDir file).1.map Definitions.unnamed =
      (system s options'.fallbackDir file).1.map Definitions.unnamed
    rw [system_unnamed, system_unnamed, h file hfile]

end Search

/-! ### Lexicons -/

theorem SearchOptions.isUsual_iff {options : SearchOptions} :
    options.isUsual = true ↔ options.searchSystem = true ∧
      options.fallbackDir.map Path.components =
        ({} : SearchOptions).fallbackDir.map Path.components ∧ options.paths = [] := by
  simp [isUsual, and_assoc]

theorem Search.hasRoom_usual : HasRoom ({} : SearchOptions).fallbackDir := by
  intro d hd
  cases hd
  decide +kernel

/-- The usual search does not fail, so no definitions have to stand in for it. -/
theorem Lexicon.ofUsualSearch_eq_build (s : Surroundings) :
    ofUsualSearch s = build .usual (Search.withBundled (Search.found s {})) := by
  obtain ⟨notes, hrun⟩ := Search.exists_run_eq_ok s {} rfl
  rw [ofUsualSearch, hrun]

namespace Configuration

/-- **The lexicon that is kept for the usual search is the one that a search would give.**  A
configuration gets the lexicon of the definitions that its own search finds, or the fault of that
search; and the definitions that stand in for a usual search that fails are never used.  If the
configuration spells the usual directory in another way, the spelling must not be too long. -/
theorem lexicon_eq_build (config : Configuration) {s : Surroundings}
    (hfiles : s.files.IgnoresSpelling)
    (hroom : config.search.isUsual = true → Search.HasRoom config.search.fallbackDir) :
    config.lexicon s =
        (Search.run s config.search).map (fun found => Lexicon.build .usual found.1) ∧
      ∃ found, Search.run s {} = .ok found ∧
        Lexicon.ofUsualSearch s = Lexicon.build .usual found.1 := by
  constructor
  · rw [lexicon]
    by_cases husual : config.search.isUsual = true
    · obtain ⟨hsystem, hdirectory, hpaths⟩ := SearchOptions.isUsual_iff.1 husual
      obtain ⟨notes, hrun⟩ := Search.exists_run_eq_ok s config.search hpaths
      have htext : ∀ file ∈ Search.systemFiles, Search.textIn s config.search.fallbackDir file =
          Search.textIn s ({} : SearchOptions).fallbackDir file := fun file hfile =>
        Search.textIn_congr hfiles hdirectory (hroom husual) Search.hasRoom_usual hfile
      have hfound := Search.found_congr hsystem htext
      rw [if_pos husual, hrun, Lexicon.ofUsualSearch_eq_build]
      exact congrArg Except.ok (Lexicon.build_congr .usual (Search.withBundled_congr hfound)).symm
    · rw [if_neg husual]
  · obtain ⟨notes, hrun⟩ := Search.exists_run_eq_ok s {} rfl
    exact ⟨_, hrun, Lexicon.ofUsualSearch_eq_build s⟩

/-- A table of one symbol. -/
def realsTable : String :=
  "\\UnicodeMathSymbol\x7b\x220211D\x7d\x7b\\Reals\x7d\x7b\\mathord\x7d\x7breals\x7d%"

/-- Whether a path leads to the table in the usual directory. -/
def isTable (path : String) : Bool :=
  Path.endsInName path && Path.components path = Path.components
    "/usr/share/texlive/texmf-dist/tex/latex/unicode-math/unicode-math-table.tex"

/-- An installation with this table in the usual directory. -/
def installation : Surroundings where
  files :=
    { read := fun path =>
        if FileTree.maxPathSize < path.utf8ByteSize then .error .nameTooLong
        else if isTable path then .ok (Utf8.encode realsTable) else .error .notFound
      isFile := fun path => path.utf8ByteSize ≤ FileTree.maxPathSize && isTable path }

theorem ignoresSpelling_installation : installation.files.IgnoresSpelling where
  isFile h hpath hpath' := by
    simp only [installation, isTable, h, hpath.ends, hpath'.ends, hpath.size, hpath'.size]
  read h hpath hpath' := by
    simp only [installation, isTable, h, hpath.ends, hpath'.ends, Nat.not_lt.2 hpath.size,
      Nat.not_lt.2 hpath'.size]

/-- The table below the working directory, where the finder knows it. -/
def unpacked : Surroundings where
  files := .ofTree ⟨[(["texmf", "unicode-math-table.tex"], Utf8.encode realsTable)]⟩
  finder file := if file = "unicode-math-table.tex" then some "texmf/./unicode-math-table.tex\n"
    else none

/-- A configuration that spells the usual directory in another way. -/
def slashed : Configuration :=
  { search := { fallbackDir := some "/usr//share/texlive/./texmf-dist/tex/latex/unicode-math/" } }

/-- Another spelling of the directory gives the same lexicon, that of the table, wherever the table
is. -/
theorem lexicon_eq_build_slashed :
    slashed.search ≠ {} ∧ slashed.search.isUsual = true ∧
      (slashed.lexicon installation =
          (Search.run installation slashed.search).map (fun found => .build .usual found.1) ∧
        (Lexicon.ofUsualSearch installation).canonical? '\u211D' = some "\\Reals") ∧
      slashed.lexicon unpacked =
          (Search.run unpacked slashed.search).map (fun found => .build .usual found.1) ∧
        (Lexicon.ofUsualSearch unpacked).canonical? '\u211D' = some "\\Reals" := by
  have hroom : Search.HasRoom slashed.search.fallbackDir := by
    intro d hd
    cases hd
    decide +kernel
  refine ⟨by decide +kernel, by decide +kernel, ⟨?_, by decide +kernel⟩, ?_, by decide +kernel⟩
  · exact (lexicon_eq_build slashed ignoresSpelling_installation fun _ => hroom).1
  · exact (lexicon_eq_build slashed (FileTree.ignoresSpelling _) fun _ => hroom).1

/-- A configuration that spells the usual directory with more slashes than a path may have bytes. -/
def overlong : Configuration :=
  { search := { fallbackDir := some ("/usr/share/texlive/texmf-dist/tex/latex/unicode-math" ++
      Path.slashes 4096) } }

theorem isUsual_overlong : overlong.search.isUsual = true :=
  SearchOptions.isUsual_iff.2
    ⟨rfl, congrArg some (Path.components_append_slashes (by decide) 4096), rfl⟩

/-- The slashes alone take more bytes than a path may have, so nothing is found behind them. -/
theorem found_overlong : Search.found installation overlong.search = [] := by
  refine Search.found_eq_nil fun file hfile => ?_
  have hisFile : ∀ front, installation.files.isFile (Path.join (front ++ Path.slashes 4096) file) =
      false := by
    intro front
    have hle := (Search.isName_of_mem_systemFiles hfile).utf8ByteSize_le_join
      (front ++ Path.slashes 4096)
    rw [String.utf8ByteSize_append, Path.utf8ByteSize_slashes] at hle
    have hlong : ¬ (Path.join (front ++ Path.slashes 4096) file).utf8ByteSize ≤
        FileTree.maxPathSize := by
      rw [FileTree.maxPathSize]
      omega
    simp only [installation, hlong, decide_false, Bool.false_and]
  -- The finder knows no file either.
  simp only [Search.locate?, overlong, Option.map_some, Option.filter_some, hisFile,
    Bool.false_eq_true, if_false]
  rfl

/-- **A spelling can be too long.**  The lexicon that is kept has the table of the installation,
which the search of the configuration does not find, so that it takes the bundled definitions. -/
theorem lexicon_ne_build_overlong :
    installation.files.IgnoresSpelling ∧ overlong.search.isUsual = true ∧
      overlong.lexicon installation ≠
        (Search.run installation overlong.search).map (fun found => .build .usual found.1) := by
  refine ⟨ignoresSpelling_installation, isUsual_overlong, fun heq => ?_⟩
  obtain ⟨notes, hrun⟩ := Search.exists_run_eq_ok installation overlong.search rfl
  rw [lexicon, if_pos isUsual_overlong, hrun, found_overlong] at heq
  have hlexicon : Lexicon.ofUsualSearch installation =
      Lexicon.build .usual (Search.withBundled []) := Except.ok.inj heq
  -- The two lexicons write the set of the real numbers in different ways.
  have htable : (Lexicon.ofUsualSearch installation).canonical? '\u211D' = some "\\Reals" := by
    decide +kernel
  have hbundled : (Lexicon.build .usual (Search.withBundled [])).canonical? '\u211D' =
      some "\\BbbR" := by
    rw [Lexicon.canonical?_build]
    decide +kernel
  rw [hlexicon, hbundled] at htable
  exact absurd htable (by decide)

end Configuration

end TexGlyph
