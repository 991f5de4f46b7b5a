import TexGlyph.Proofs.Lexicon.Coherence
import TexGlyph.Proofs.Lexicon.Definition.Line

/-!
# The order of sources

The records of all sources take effect before the aliases of all sources.  So two sources next to
each other can change places if one has no record lines and the other no aliases, since they put
nothing into the same part (`LexiconStep.ofSources_exchange`).

And an alias comes after every record: whatever the records of any source mean by its target is
listed by then (`Lexicon.listed_steps_record`), the alias copies all of it
(`Lexicon.listed_steps_synonym`), and what is listed stays listed.
-/

namespace TexGlyph

/-- The definitions of several files, given by their names and their texts. -/
def Definitions.ofTexts (files : List (String × String)) : List Definitions :=
  files.map fun file => ofText file.1 file.2

/-- A source that only has aliases and one that has none can change places. -/
theorem LexiconStep.ofSources_exchange {d e : Definitions} (hrecords : d.records = [])
    (hmalformed : d.malformed = []) (haliases : e.aliases = []) (before after : List Definitions) :
    ofSources (before ++ d :: e :: after) = ofSources (before ++ e :: d :: after) := by
  simp only [ofSources, List.flatMap_append, List.flatMap_cons, hrecords, hmalformed, haliases,
    List.map_nil, List.nil_append]

namespace Lexicon

variable {preset : Preset} {lexicon : Lexicon}

/-! ### Records -/

/-- All commands that a record names mean its character, if the preset does not keep it out. -/
theorem listed_addMeanings_of_named {r : SymbolRecord} (hcode : r.codepoint ∉ preset.oneWay)
    {command : String} (hcommand : command ∈ r.command :: r.infoAliases) (table : MeaningTable) :
    Listed (addMeanings preset r table) command r.codepoint := by
  rcases List.mem_cons.1 hcommand with rfl | hname
  · exact listed_addMeanings_self.resolve_right hcode
  · exact (listed_foldl_addEntry id fun _ => r.codepoint).2 (Or.inr ⟨command, hname, rfl, rfl⟩)

/-- After definitions with a record of a symbol, its commands mean its character. -/
theorem listed_steps_record {ss : List LexiconStep} {r : SymbolRecord} (hr : .record r ∈ ss)
    (hsymbol : r.isAccent = false) (hcode : r.codepoint ∉ preset.oneWay) {command : String}
    (hcommand : command ∈ r.command :: r.infoAliases) :
    Listed (lexicon.steps preset ss).meanings command r.codepoint := by
  obtain ⟨before, after, rfl⟩ := List.append_of_mem hr
  have hstep : Listed ((lexicon.steps preset before).step preset (.record r)).meanings command
      r.codepoint := by
    rw [step, addRecord, if_neg (by simp [hsymbol])]
    exact listed_addMeanings_of_named hcode hcommand _
  rw [steps_append]
  exact (grows_steps preset _ after).meanings.listed hstep

/-! ### Aliases -/

/-- An alias lets its name mean what its target means. -/
theorem listed_addAlias {a : Alias} {c : Char} (h : Listed lexicon.meanings a.target c) :
    Listed (lexicon.addAlias a).meanings a.name c := by
  unfold addAlias
  split
  · rename_i hnone
    rw [Listed, hnone] at h
    cases h
  · rename_i meanings hsome
    exact (listed_foldl_addEntry (fun _ => a.name) id).2
      (Or.inr ⟨c, (listed_of_getElem? hsome).1 h, rfl, rfl⟩)

/-- After definitions with an alias, its name means what its target meant before them. -/
theorem listed_steps_synonym {ss : List LexiconStep} {source : String} {a : Alias}
    (ha : .synonym source a ∈ ss) {c : Char} (h : Listed lexicon.meanings a.target c) :
    Listed (lexicon.steps preset ss).meanings a.name c := by
  obtain ⟨before, after, rfl⟩ := List.append_of_mem ha
  have hstep : Listed ((lexicon.steps preset before).step preset (.synonym source a)).meanings
      a.name c :=
    listed_addAlias ((grows_steps preset lexicon before).meanings.listed h)
  rw [steps_append]
  exact (grows_steps preset _ after).meanings.listed hstep

/-! ### Sources -/

/-- An alias of any source accepts what the records of any source mean by its target. -/
theorem listed_build_of_alias {sources : List Definitions} {d e : Definitions} (hd : d ∈ sources)
    {a : Alias} (ha : a ∈ d.aliases) (he : e ∈ sources) {r : SymbolRecord} (hr : r ∈ e.records)
    (hsymbol : r.isAccent = false) (hcode : r.codepoint ∉ preset.oneWay)
    (htarget : a.target ∈ r.command :: r.infoAliases) :
    Listed (build preset sources).meanings a.name r.codepoint := by
  have hrecord : .record r ∈ sources.flatMap fun d =>
      d.malformed.map (LexiconStep.malformed d.name) ++ d.records.map .record :=
    List.mem_flatMap.2 ⟨e, he, List.mem_append_right _ (List.mem_map_of_mem hr)⟩
  have hsynonym : .synonym d.name a ∈ sources.flatMap fun d =>
      d.aliases.map (LexiconStep.synonym d.name) :=
    List.mem_flatMap.2 ⟨d, hd, List.mem_map_of_mem ha⟩
  show Listed ((ofPreset preset).steps preset (LexiconStep.ofSources sources)).meanings _ _
  rw [LexiconStep.ofSources, steps_append]
  exact listed_steps_synonym hsynonym (listed_steps_record hrecord hsymbol hcode htarget)

/-- **Aliases may stand anywhere among the sources.**  A file without record lines and a file without
aliases can change places when they are next to each other: the lexicon is the same, and so is what
there is to say about its making.  And every alias accepts all characters that the records of symbols
in any file give its target, apart from those that the preset keeps out. -/
theorem build_ofTexts (preset : Preset) :
    (∀ (before after : List (String × String)) (file other : String × String),
      (∀ line ∈ lines file.2.toList, ¬ IsRecordLine line) →
      (Definitions.ofText other.1 other.2).aliases = [] →
      build preset (Definitions.ofTexts (before ++ file :: other :: after)) =
          build preset (Definitions.ofTexts (before ++ other :: file :: after)) ∧
        buildNotes preset (Definitions.ofTexts (before ++ file :: other :: after)) =
          buildNotes preset (Definitions.ofTexts (before ++ other :: file :: after))) ∧
    ∀ (files : List (String × String)), ∀ d ∈ Definitions.ofTexts files, ∀ a ∈ d.aliases,
      ∀ e ∈ Definitions.ofTexts files, ∀ r ∈ e.records,
      r.isAccent = false → r.codepoint ∉ preset.oneWay → a.target ∈ r.command :: r.infoAliases →
      Listed (build preset (Definitions.ofTexts files)).meanings a.name r.codepoint := by
  constructor
  · intro before after file other hfile hother
    obtain ⟨hrecords, hmalformed⟩ := Definitions.ofText_of_no_recordLine file.1 hfile
    -- The steps are the same list, so both the lexicon and the log are.
    have hsteps := LexiconStep.ofSources_exchange hrecords hmalformed hother
      (Definitions.ofTexts before) (Definitions.ofTexts after)
    simp only [Definitions.ofTexts, List.map_append, List.map_cons] at hsteps ⊢
    simp only [build, buildNotes, hsteps, and_self]
  · intro files d hd a ha e he r hr hsymbol hcode htarget
    exact listed_build_of_alias hd ha he hr hsymbol hcode htarget

/-- A file with an alias. -/
def arrowAliases : String × String := ("aliases", "\\def\\to\x7b\\ra\x7d\n")

/-- A file with two characters for one command. -/
def arrowRecords : String × String :=
  ("table", "\\UnicodeMathSymbol\x7b2192\x7d\x7b\\ra\x7d\x7b\x7d\x7barrow\x7d\n" ++
    "\\UnicodeMathSymbol\x7b27F6\x7d\x7b\\ra\x7d\x7b\x7d\x7b\x7d")

/-- An alias in front of the file of its target. -/
theorem build_ofTexts_arrows :
    ((∀ line ∈ lines arrowAliases.2.toList, ¬ IsRecordLine line) ∧
      (Definitions.ofText arrowRecords.1 arrowRecords.2).aliases = [] ∧
      (Definitions.ofText arrowAliases.1 arrowAliases.2).aliases = [⟨"\\to", "\\ra"⟩] ∧
      (Definitions.ofText arrowRecords.1 arrowRecords.2).records =
        [⟨'→', "\\ra", "", "arrow"⟩, ⟨'⟶', "\\ra", "", ""⟩]) ∧
    build .usual (Definitions.ofTexts [arrowAliases, arrowRecords]) =
      build .usual (Definitions.ofTexts [arrowRecords, arrowAliases]) ∧
    Listed (build .usual (Definitions.ofTexts [arrowAliases, arrowRecords])).meanings "\\to" '⟶' := by
  have hlines : ∀ line ∈ lines arrowAliases.2.toList, ¬ IsRecordLine line := by decide
  have hnone : (Definitions.ofText arrowRecords.1 arrowRecords.2).aliases = [] := by
    decide +kernel
  have haliases : (Definitions.ofText arrowAliases.1 arrowAliases.2).aliases =
      [⟨"\\to", "\\ra"⟩] := by decide +kernel
  have hrecords : (Definitions.ofText arrowRecords.1 arrowRecords.2).records =
      [⟨'→', "\\ra", "", "arrow"⟩, ⟨'⟶', "\\ra", "", ""⟩] := by decide +kernel
  obtain ⟨hexchange, haccepts⟩ := build_ofTexts .usual
  refine ⟨⟨hlines, hnone, haliases, hrecords⟩,
    (hexchange [] [] arrowAliases arrowRecords hlines hnone).1, ?_⟩
  exact haccepts [arrowAliases, arrowRecords] _ List.mem_cons_self ⟨"\\to", "\\ra"⟩
    (haliases ▸ List.mem_cons_self) _ (List.mem_cons_of_mem _ List.mem_cons_self)
    ⟨'⟶', "\\ra", "", ""⟩ (hrecords ▸ List.mem_cons_of_mem _ List.mem_cons_self)
    (by decide +kernel) (by decide) List.mem_cons_self

end Lexicon

end TexGlyph
