import TexGlyph.Proofs.Lexicon.Coherence

/-!
# Where meanings come from

A command has a meaning from the preset, from a record that names it, or from the target of an
alias. So a property of commands and their meanings that the preset and the records have, and that
aliases hand on, holds of every meaning in a lexicon that is made from them
(`Lexicon.meaningInduction`). Letters have no such origins: definitions leave them as the preset has
them (`Lexicon.greek_build`).
-/

namespace TexGlyph

namespace LexiconStep

/-- A record among the definitions of several sources is one of some source. -/
theorem exists_of_record_mem_ofSources {sources : List Definitions} {r : SymbolRecord}
    (h : record r ∈ ofSources sources) : ∃ d ∈ sources, r ∈ d.records := by
  rcases List.mem_append.1 h with h | h
  · obtain ⟨d, hd, h⟩ := List.mem_flatMap.1 h
    rcases List.mem_append.1 h with h | h
    · obtain ⟨_, _, heq⟩ := List.mem_map.1 h
      cases heq
    · obtain ⟨_, hr, heq⟩ := List.mem_map.1 h
      cases heq
      exact ⟨d, hd, hr⟩
  · obtain ⟨d, _, h⟩ := List.mem_flatMap.1 h
    obtain ⟨_, _, heq⟩ := List.mem_map.1 h
    cases heq

/-- An alias among the definitions of several sources is one of some source. -/
theorem exists_of_synonym_mem_ofSources {sources : List Definitions} {source : String} {a : Alias}
    (h : synonym source a ∈ ofSources sources) : ∃ d ∈ sources, a ∈ d.aliases := by
  rcases List.mem_append.1 h with h | h
  · obtain ⟨d, _, h⟩ := List.mem_flatMap.1 h
    rcases List.mem_append.1 h with h | h
    all_goals
      obtain ⟨_, _, heq⟩ := List.mem_map.1 h
      cases heq
  · obtain ⟨d, hd, h⟩ := List.mem_flatMap.1 h
    obtain ⟨_, ha, heq⟩ := List.mem_map.1 h
    cases heq
    exact ⟨d, hd, ha⟩

end LexiconStep

namespace Lexicon

variable {preset : Preset}

/-- **Induction along the origins of meanings**: what holds of the pairs of the preset and of the
names in a record with its character, and of the name of an alias as soon as it holds of its target,
holds of every meaning that a lexicon has of a command. -/
theorem meaningInduction {sources : List Definitions} {P : String → Char → Prop}
    (pair : ∀ entry ∈ preset.pairs, P entry.1 entry.2)
    (record : ∀ d ∈ sources, ∀ r ∈ d.records, ∀ command ∈ r.command :: r.infoAliases,
      P command r.codepoint)
    (synonym : ∀ d ∈ sources, ∀ a ∈ d.aliases, ∀ c, P a.target c → P a.name c)
    {command : String} {c : Char} (h : Listed (build preset sources).meanings command c) :
    P command c := by
  -- The invariant of the steps is that every meaning has the property so far.
  refine List.foldlRecOn (LexiconStep.ofSources sources) (Lexicon.step preset)
    (motive := fun lexicon => ∀ command c, Listed lexicon.meanings command c → P command c)
    ?preset (fun lexicon ih step hstep => ?step) command c h
  case preset =>
    intro command c hc
    exact pair _ (mem_of_lookup_reverse (listed_meanings_ofPreset.1 hc))
  case step =>
    cases step with
    | malformed source line => exact ih
    | record r =>
      intro command c hc
      rw [Lexicon.step, addRecord] at hc
      split at hc
      · exact ih command c hc
      · rcases listed_of_listed_addMeanings hc with hc | ⟨rfl, hcommand⟩
        · exact ih command c hc
        · obtain ⟨d, hd, hr⟩ := LexiconStep.exists_of_record_mem_ofSources hstep
          exact record d hd r hr command hcommand
    | synonym source a =>
      intro command c hc
      rw [Lexicon.step, addAlias] at hc
      split at hc
      · exact ih command c hc
      · rename_i copied hcopied
        -- What is new is a character that the target means by now, so the invariant has it.
        rcases (listed_foldl_addEntry (fun _ => a.name) id).1 hc with hc | ⟨c', hc', rfl, rfl⟩
        · exact ih command c hc
        · obtain ⟨d, hd, ha⟩ := LexiconStep.exists_of_synonym_mem_ofSources hstep
          exact synonym d hd a ha _ (ih a.target _ ((listed_of_getElem? hcopied).2 hc'))

theorem greek_step (preset : Preset) (lexicon : Lexicon) (s : LexiconStep) :
    (lexicon.step preset s).greek = lexicon.greek := by
  cases s with
  | record r =>
    rw [step, addRecord]
    split <;> rfl
  | synonym source a =>
    rw [step, addAlias]
    split <;> rfl
  | malformed source line => rfl

/-- No definition changes the Greek letters. -/
theorem greek_steps (preset : Preset) (lexicon : Lexicon) (ss : List LexiconStep) :
    (lexicon.steps preset ss).greek = lexicon.greek :=
  List.foldlRecOn (motive := (·.greek = lexicon.greek)) ss (Lexicon.step preset) rfl
    fun later h s _ => (greek_step preset later s).trans h

/-- Definitions leave the letters of commands as the preset has them. -/
theorem greek_build (preset : Preset) (sources : List Definitions) :
    (build preset sources).greek = (ofPreset preset).greek :=
  greek_steps preset (ofPreset preset) (LexiconStep.ofSources sources)

/-- So the letter of a command is one that the preset gives it. -/
theorem mem_greek_of_build {preset : Preset} {sources : List Definitions} {command : String}
    {c : Char} (h : (build preset sources).greek[command]?.bind List.head? = some c) :
    (command, c) ∈ preset.greek := by
  rw [greek_build, getElem?_greek_ofPreset] at h
  cases hletter : preset.letter? command with
  | none =>
    rw [hletter] at h
    cases h
  | some letter =>
    rw [hletter] at h
    obtain rfl : letter = c := Option.some.inj h
    exact mem_of_lookup_reverse hletter

end Lexicon

end TexGlyph
