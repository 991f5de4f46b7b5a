import TexGlyph.Proofs.Encoding.Utf8
import TexGlyph.Proofs.Lexicon.Definition.Line
import TexGlyph.Proofs.Lexicon.Search

/-!
# What a search discovers

A search reads the paths that were asked for, in order, and stops at the first that has no text
(`Search.explicit_eq_error_iff`).  Otherwise its sources are the definitions of the files that it
found (`Search.readings`), and the bundled ones where none of these files has a line that looks like
a symbol record.  Looking like a record is less than being one: where every such line is malformed
there are neither records nor bundled definitions, and only there (`Search.run_usable_iff`).
-/

namespace TexGlyph

/-! ### Texts of files -/

namespace Files

variable {files : Files} {path text : String}

/-- Whether a path leads to a text: there are bytes, and they are valid UTF-8. -/
def HasText (files : Files) (path : String) : Prop :=
  ∃ bytes, files.read path = .ok bytes ∧ bytes.toByteArray.IsValidUTF8

/-- The text of a file is the one that its bytes are the UTF-8 form of. -/
theorem readText_eq_ok_iff : files.readText path = .ok text ↔
    ∃ bytes, files.read path = .ok bytes ∧ text.toByteArray = bytes.toByteArray := by
  rw [readText]
  cases hread : files.read path with
  | error fault => simp
  | ok bytes =>
    simp only [Except.ok.injEq, exists_eq_left', ← Utf8.text?_eq_some_iff]
    cases Utf8.text? bytes <;> simp

/-- A path has a text exactly if it can be read as one. -/
theorem hasText_iff : files.HasText path ↔ ∃ text, files.readText path = .ok text := by
  constructor
  · rintro ⟨bytes, hread, hvalid⟩
    exact ⟨.ofByteArray _ hvalid, readText_eq_ok_iff.2 ⟨bytes, hread, rfl⟩⟩
  · rintro ⟨text, h⟩
    obtain ⟨bytes, hread, hbytes⟩ := readText_eq_ok_iff.1 h
    exact ⟨bytes, hread, hbytes ▸ text.isValidUTF8⟩

theorem not_hasText_iff : ¬ files.HasText path ↔ ∃ cause, files.readText path = .error cause := by
  rw [hasText_iff]
  cases files.readText path <;> simp

end Files

/-! ### Lines that look like records -/

namespace Definitions

/-- A file is taken to have symbols if some line looks like a record. -/
theorem hasSymbols_ofText_iff {name text : String} :
    (ofText name text).hasSymbols = true ↔ ∃ line ∈ lines text.toList, IsRecordLine line := by
  have hcount := length_records_add_length_malformed name text
  have hpositive : 0 < (lines text.toList).countP (IsRecordLine ·) ↔
      ∃ line ∈ lines text.toList, IsRecordLine line := by
    simp only [List.countP_pos_iff, decide_eq_true_eq]
  rw [← hpositive, ← hcount, hasSymbols]
  cases (ofText name text).records with
  | cons r records => simp
  | nil => cases (ofText name text).malformed <;> simp

/-- A file has records if one can be read from some line. -/
theorem records_ofText_ne_nil_iff {name text : String} :
    (ofText name text).records ≠ [] ↔
      ∃ line ∈ lines text.toList, ∃ r, recordReading? line = some (some r) := by
  rw [records_ofText, ne_eq, List.eq_nil_iff_forall_not_mem]
  simp only [not_forall, not_not, List.reduceOption_mem_iff, List.mem_filterMap]
  exact ⟨fun ⟨r, line, hline, h⟩ => ⟨line, hline, r, h⟩,
    fun ⟨line, hline, r, h⟩ => ⟨r, line, hline, h⟩⟩

end Definitions

/-! ### Searches -/

namespace Search

variable {s : Surroundings} {options : SearchOptions} {fault : Fault}

/-- The paths that a search reads: those that were asked for, and those of the installation. -/
def paths (s : Surroundings) (options : SearchOptions) : List String :=
  options.paths ++
    if options.searchSystem then systemFiles.filterMap (locate? s options.fallbackDir) else []

/-- The files that a search finds, by path, with their texts. -/
def readings (s : Surroundings) (options : SearchOptions) : List (String × String) :=
  (paths s options).filterMap fun path => (s.files.readText path).toOption.map (path, ·)

/-- Whether some file that a search finds has a line that looks like a record. -/
def FindsRecordLine (s : Surroundings) (options : SearchOptions) : Prop :=
  ∃ reading ∈ readings s options, ∃ line ∈ lines reading.2.toList, IsRecordLine line

/-- Whether a record can be read from some file that a search finds. -/
def FindsRecord (s : Surroundings) (options : SearchOptions) : Prop :=
  ∃ reading ∈ readings s options, ∃ line ∈ lines reading.2.toList,
    ∃ r, recordReading? line = some (some r)

/-- The definitions of the files that a search finds. -/
def definitions (s : Surroundings) (options : SearchOptions) : List Definitions :=
  (readings s options).map fun reading => .ofText reading.1 reading.2

/-- The definitions at a path, if it has a text. -/
def definitionsAt? (s : Surroundings) (path : String) : Option Definitions :=
  (s.files.readText path).toOption.map (.ofText path)

theorem definitions_eq (s : Surroundings) (options : SearchOptions) :
    definitions s options = (paths s options).filterMap (definitionsAt? s) := by
  rw [definitions, readings, List.map_filterMap]
  refine List.filterMap_congr fun path _ => ?_
  rw [definitionsAt?, Option.map_map]
  rfl

/-- A search that gives a result has read every path that was asked for. -/
theorem eq_of_explicit_eq_ok {asked : List String} {ds : List Definitions}
    (h : explicit s asked = .ok ds) : ds = asked.filterMap (definitionsAt? s) := by
  induction asked generalizing ds with
  | nil =>
    cases h
    rfl
  | cons path asked ih =>
    rw [explicit, load] at h
    cases hread : s.files.readText path with
    | error cause =>
      rw [hread] at h
      cases h
    | ok text =>
      rw [hread] at h
      obtain ⟨ds, hds, rfl⟩ := exists_of_map_eq_ok h
      have hpath : definitionsAt? s path = some (.ofText path text) := by
        rw [definitionsAt?, hread]
        rfl
      rw [List.filterMap_cons_some hpath, ← ih hds]

/-- A file of the installation is one that is located and can be read. -/
theorem system_fst (s : Surroundings) (directory : Option String) (file : String) :
    (system s directory file).1 = (locate? s directory file).bind (definitionsAt? s) := by
  rw [system]
  cases locate? s directory file with
  | none => rfl
  | some path =>
    simp only [load, Option.bind_some, definitionsAt?]
    cases s.files.readText path <;> rfl

theorem found_eq (s : Surroundings) (options : SearchOptions) :
    found s options =
      (if options.searchSystem then systemFiles.filterMap (locate? s options.fallbackDir)
        else []).filterMap (definitionsAt? s) := by
  rw [found]
  cases options.searchSystem with
  | false => rfl
  | true =>
    rw [if_pos rfl, if_pos rfl, List.filterMap_map, List.filterMap_filterMap]
    exact List.filterMap_congr fun file _ => system_fst s options.fallbackDir file

/-- The sources of a search are the files that it found, and the bundled definitions if these have
no symbols. -/
theorem eq_of_run_eq_ok {sources : List Definitions} {notes : List SearchNote}
    (h : run s options = .ok (sources, notes)) : sources = withBundled (definitions s options) := by
  have hsources : (run s options).map (·.1) = .ok sources := by
    rw [h]
    rfl
  rw [map_run] at hsources
  obtain ⟨asked, hasked, rfl⟩ := exists_of_map_eq_ok hsources
  rw [definitions_eq, paths, List.filterMap_append, ← eq_of_explicit_eq_ok hasked, ← found_eq]

/-- A path without a text is a fault; any other path leaves the fault to the paths after it. -/
theorem explicit_cons_eq_error_iff {path : String} {asked : List String} :
    explicit s (path :: asked) = .error fault ↔
      (∃ cause, s.files.readText path = .error cause ∧ fault = .definitions path cause) ∨
        s.files.HasText path ∧ explicit s asked = .error fault := by
  rw [explicit, load, Files.hasText_iff]
  cases s.files.readText path with
  | error cause => simp [Except.map, eq_comm]
  | ok text => cases explicit s asked <;> simp [Except.map]

/-- The first path without a text is the fault of the paths that were asked for. -/
theorem explicit_eq_error_iff {asked : List String} : explicit s asked = .error fault ↔
    ∃ front path back cause, asked = front ++ path :: back ∧
      (∀ p ∈ front, s.files.HasText p) ∧ ¬ s.files.HasText path ∧
      s.files.readText path = .error cause ∧ fault = .definitions path cause := by
  induction asked with
  | nil => simp [explicit]
  | cons path asked ih =>
    rw [explicit_cons_eq_error_iff, ih]
    constructor
    · rintro (⟨cause, hread, rfl⟩ | ⟨hpath, front, path', back, cause, rfl, htexts, hrest⟩)
      · exact ⟨[], path, asked, cause, rfl, fun _ hp => absurd hp List.not_mem_nil,
          Files.not_hasText_iff.2 ⟨cause, hread⟩, hread, rfl⟩
      · exact ⟨path :: front, path', back, cause, rfl, List.forall_mem_cons.2 ⟨hpath, htexts⟩,
          hrest⟩
    · rintro ⟨front, path', back, cause, heq, htexts, hnone, hread, rfl⟩
      -- The faulty path is the first one, or one of those after it.
      rcases List.cons_eq_append_iff.1 heq with ⟨rfl, hcons⟩ | ⟨front, rfl, rfl⟩
      · obtain ⟨rfl, -⟩ := List.cons.inj hcons
        exact .inl ⟨cause, hread, rfl⟩
      · obtain ⟨hpath, htexts⟩ := List.forall_mem_cons.1 htexts
        exact .inr ⟨hpath, front, path', back, cause, rfl, htexts, hnone, hread, rfl⟩

/-- The files that were found have a record if one can be read from some line of them. -/
theorem findsRecord_iff :
    FindsRecord s options ↔ ∃ d ∈ definitions s options, d.records ≠ [] := by
  simp only [FindsRecord, definitions, List.mem_map, exists_exists_and_eq_and,
    Definitions.records_ofText_ne_nil_iff]

/-- The files that were found are taken to have symbols if some line of them looks like a record. -/
theorem findsRecordLine_iff :
    FindsRecordLine s options ↔ (definitions s options).any (·.hasSymbols) = true := by
  simp only [FindsRecordLine, List.any_eq_true, definitions, List.mem_map,
    exists_exists_and_eq_and, Definitions.hasSymbols_ofText_iff]

/-- **A search yields a usable table unless every line that looks like a record is malformed.**  Its
sources are the files that were found, and the bundled definitions if no line of these files looks like
a record; so they have a record exactly if one can be read from these files or no line looks like one.
A search fails exactly if some path that was asked for has no text, and the fault names the first such
path. -/
theorem run_usable_iff (s : Surroundings) (options : SearchOptions) :
    (∀ sources notes, run s options = .ok (sources, notes) →
      ((∃ d ∈ sources, d.records ≠ []) ↔ FindsRecord s options ∨ ¬ FindsRecordLine s options) ∧
      (FindsRecordLine s options → sources = definitions s options) ∧
      (¬ FindsRecordLine s options →
        sources = definitions s options ++ [.bundledSymbols, .bundledAliases])) ∧
    ∀ fault, run s options = .error fault ↔
      ∃ front path back cause, options.paths = front ++ path :: back ∧
        (∀ p ∈ front, s.files.HasText p) ∧ ¬ s.files.HasText path ∧
        s.files.readText path = .error cause ∧ fault = .definitions path cause := by
  constructor
  · intro sources notes hrun
    obtain rfl := eq_of_run_eq_ok hrun
    rw [withBundled]
    -- The bundled definitions are added only if no line looks like a record.
    by_cases hlooks : FindsRecordLine s options
    · rw [if_pos (findsRecordLine_iff.1 hlooks), ← findsRecord_iff]
      exact ⟨(or_iff_left (not_not_intro hlooks)).symm, fun _ => rfl, fun h => absurd hlooks h⟩
    · have hbundled : Definitions.bundledSymbols.records ≠ [] := List.cons_ne_nil _ _
      rw [if_neg (mt findsRecordLine_iff.2 hlooks)]
      refine ⟨iff_of_true ⟨.bundledSymbols, ?_, hbundled⟩ (.inr hlooks),
        fun h => absurd h hlooks, fun _ => rfl⟩
      exact List.mem_append_right _ List.mem_cons_self
  · intro fault
    rw [← explicit_eq_error_iff, run]
    cases explicit s options.paths <;> simp [Except.map]

/-- A directory with one file, which has the given text. -/
def directoryOf (path text : String) : Surroundings where
  files := .ofTree ⟨[([path], text.toUTF8.data.toList)]⟩

/-- A search for the definitions of one file. -/
def only (path : String) : SearchOptions :=
  { searchSystem := false, fallbackDir := none, paths := [path] }

/-- An alias. -/
def elementAlias : String := "\\def\\elem\x7b\\in\x7d"

/-- No line of a file of aliases looks like a record, so there are the bundled symbols. -/
theorem run_usable_iff_aliases :
    ¬ FindsRecordLine (directoryOf "a.sty" elementAlias) (only "a.sty") ∧
      ∃ sources notes,
        run (directoryOf "a.sty" elementAlias) (only "a.sty") = .ok (sources, notes) ∧
          ∃ d ∈ sources, d.records ≠ [] := by
  have hreadings : readings (directoryOf "a.sty" elementAlias) (only "a.sty") =
      [("a.sty", elementAlias)] := by decide +kernel
  have hlines : ∀ line ∈ lines elementAlias.toList, ¬ IsRecordLine line := by decide +kernel
  have hlooks : ¬ FindsRecordLine (directoryOf "a.sty" elementAlias) (only "a.sty") := by
    rw [FindsRecordLine, hreadings]
    rintro ⟨reading, hreading, line, hline, hrecord⟩
    obtain rfl := List.mem_singleton.1 hreading
    exact hlines line hline hrecord
  obtain ⟨notes, hrun⟩ : ∃ notes, run (directoryOf "a.sty" elementAlias) (only "a.sty") =
      .ok ([.ofText "a.sty" elementAlias, .bundledSymbols, .bundledAliases], notes) :=
    ⟨[.bundled], rfl⟩
  exact ⟨hlooks, _, notes, hrun, ((run_usable_iff _ _).1 _ _ hrun).1.2 (.inr hlooks)⟩

/-- A record that lacks its last group. -/
def cutRecord : String :=
  "\\UnicodeMathSymbol\x7b\x2202208\x7d\x7b\\in \x7d\x7b\\mathrel\x7d"

/-- A file with this record only is the only source, although it has no record. -/
theorem run_malformed :
    run (directoryOf "t.tex" cutRecord) (only "t.tex") =
        .ok ([⟨"t.tex", [], [], [⟨1, cutRecord⟩]⟩], []) ∧
      ¬ ∃ d ∈ ([⟨"t.tex", [], [], [⟨1, cutRecord⟩]⟩] : List Definitions), d.records ≠ [] := by
  refine ⟨by decide +kernel, ?_⟩
  rintro ⟨d, hd, hrecords⟩
  obtain rfl := List.mem_singleton.1 hd
  exact hrecords rfl

end Search

end TexGlyph
