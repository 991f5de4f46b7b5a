import TexGlyph.Proofs.Lexicon.Coherence

/-!
# Characters that are spelled one way only

A preset keeps some characters from being read back: a record of such a character gives its command
no meaning.  It is only asked for a command that has no meaning yet, though.  Where the preset, an
earlier record or an alias has given the command one, the record adds its character to the list like
any other.

So a character that is kept out is still read back exactly if one of its records comes to a command
with a meaning (`Lexicon.turnsBackInto_iff`).  The step is `Lexicon.turnsBackInto_step_iff`: an alias
hands on what is read back already, and of the records only such a one makes a difference.
-/

namespace TexGlyph

namespace Lexicon

/-- The meanings of the commands of accents, or of those of symbols. -/
def meaningsOf (lexicon : Lexicon) (accent : Bool) : MeaningTable :=
  if accent then lexicon.accentMeanings else lexicon.meanings

/-- The commands of marks as accents, or of characters as symbols. -/
def commandsOf (lexicon : Lexicon) (accent : Bool) : CommandTable :=
  if accent then lexicon.accentCommands else lexicon.commands

/-- Whether some command is turned back into a character. -/
def TurnsBackInto (lexicon : Lexicon) (c : Char) : Prop :=
  ∃ (accent : Bool) (command : String), Listed (lexicon.meaningsOf accent) command c

/-- Whether one of the records of a character has a command that means something by then. -/
def Reuses (preset : Preset) (lexicon : Lexicon) (ss : List LexiconStep) (c : Char) : Prop :=
  ∃ before r after, ss = before ++ .record r :: after ∧ r.codepoint = c ∧
    r.command ∈ (lexicon.steps preset before).meaningsOf r.isAccent

variable {preset : Preset} {lexicon : Lexicon} {c : Char}

/-! ### The tables of a record -/

/-- A record changes the meanings of its own kind only. -/
theorem meaningsOf_addRecord (r : SymbolRecord) (accent : Bool) :
    (lexicon.addRecord preset r).meaningsOf accent =
      if accent = r.isAccent then addMeanings preset r (lexicon.meaningsOf accent)
      else lexicon.meaningsOf accent := by
  unfold addRecord
  cases accent <;> cases r.isAccent <;> rfl

theorem commandsOf_addRecord_self (r : SymbolRecord) :
    (lexicon.addRecord preset r).commandsOf r.isAccent =
      addEntry (lexicon.commandsOf r.isAccent) r.codepoint r.command := by
  unfold addRecord
  cases r.isAccent <;> rfl

theorem Grows.commandsOf {later : Lexicon} (h : lexicon.Grows later) (accent : Bool) :
    ListsGrow (lexicon.commandsOf accent) (later.commandsOf accent) := by
  cases accent with
  | false => exact h.commands
  | true => exact h.accentCommands

/-! ### One step -/

/-- A record of a character that is kept out adds the character to a list that is there, and makes
no new one. -/
theorem listed_addMeanings_of_oneWay (hc : c ∈ preset.oneWay) {r : SymbolRecord}
    (hnames : r.codepoint = c → r.infoAliases = []) {table : MeaningTable} {command : String} :
    Listed (addMeanings preset r table) command c ↔
      Listed table command c ∨ r.codepoint = c ∧ command = r.command ∧ r.command ∈ table := by
  by_cases hr : r.codepoint = c
  · subst hr
    have hnone : addMeanings preset r table = addMeaning preset r table := by
      rw [addMeanings, hnames rfl]
      rfl
    rw [hnone, addMeaning]
    -- The preset is asked about the character only if the command has no list yet.
    by_cases hmem : r.command ∈ table
    · rw [if_pos (by simpa using hmem), listed_addEntry]
      simp [hmem]
    · rw [if_neg (by simpa using hmem), if_pos (List.contains_iff_mem.2 hc)]
      simp [hmem]
  · constructor
    · intro h
      refine Or.inl ((listed_of_listed_addMeanings h).resolve_right ?_)
      rintro ⟨rfl, -⟩
      exact hr rfl
    · rintro (h | ⟨rfl, -⟩)
      · exact (listsGrow_addMeanings preset r table).listed h
      · exact absurd rfl hr

theorem turnsBackInto_addRecord_iff (hc : c ∈ preset.oneWay) {r : SymbolRecord}
    (hnames : r.codepoint = c → r.infoAliases = []) :
    (lexicon.addRecord preset r).TurnsBackInto c ↔
      lexicon.TurnsBackInto c ∨
        r.codepoint = c ∧ r.command ∈ lexicon.meaningsOf r.isAccent := by
  constructor
  · rintro ⟨accent, command, h⟩
    rw [meaningsOf_addRecord] at h
    split at h
    · rename_i hkind
      subst hkind
      -- Only the table of the kind of the record is new.
      rcases (listed_addMeanings_of_oneWay hc hnames).1 h with h | ⟨hr, -, hmem⟩
      · exact Or.inl ⟨_, command, h⟩
      · exact Or.inr ⟨hr, hmem⟩
    · exact Or.inl ⟨accent, command, h⟩
  · rintro (⟨accent, command, h⟩ | ⟨hr, hmem⟩)
    · refine ⟨accent, command, ?_⟩
      rw [meaningsOf_addRecord]
      split
      · exact (listsGrow_addMeanings preset r _).listed h
      · exact h
    · refine ⟨r.isAccent, r.command, ?_⟩
      rw [meaningsOf_addRecord, if_pos rfl]
      exact (listed_addMeanings_of_oneWay hc hnames).2 (Or.inr ⟨hr, rfl, hmem⟩)

/-- An alias copies meanings, so what is read back then was read back before. -/
theorem turnsBackInto_addAlias_iff (a : Alias) :
    (lexicon.addAlias a).TurnsBackInto c ↔ lexicon.TurnsBackInto c := by
  unfold addAlias
  split
  · rfl
  · rename_i copied hcopied
    constructor
    · rintro ⟨accent, command, h⟩
      -- An alias copies meanings of symbols only.
      cases accent with
      | true => exact ⟨true, command, h⟩
      | false =>
        rcases (listed_foldl_addEntry (fun _ => a.name) id).1 h with h | ⟨c', hc', -, rfl⟩
        · exact ⟨false, command, h⟩
        · exact ⟨false, a.target, (listed_of_getElem? hcopied).2 hc'⟩
    · rintro ⟨accent, command, h⟩
      refine ⟨accent, command, ?_⟩
      cases accent with
      | true => exact h
      | false => exact (listed_foldl_addEntry (fun _ => a.name) id).2 (Or.inl h)

/-- **One definition lets a character that is kept out be read back** only if it is a record of the
character whose command means something already. -/
theorem turnsBackInto_step_iff (hc : c ∈ preset.oneWay) {s : LexiconStep}
    (hnames : ∀ r, s = .record r → r.codepoint = c → r.infoAliases = []) :
    (lexicon.step preset s).TurnsBackInto c ↔
      lexicon.TurnsBackInto c ∨ ∃ r, s = .record r ∧ r.codepoint = c ∧
        r.command ∈ lexicon.meaningsOf r.isAccent := by
  cases s with
  | record r =>
    rw [step, turnsBackInto_addRecord_iff hc (hnames r rfl)]
    simp
  | synonym source a =>
    rw [step, turnsBackInto_addAlias_iff]
    simp
  | malformed source line => simp [step]

/-! ### Many steps -/

/-- The first definition or the ones after it have the record. -/
theorem reuses_cons_iff {s : LexiconStep} {ss : List LexiconStep} :
    Reuses preset lexicon (s :: ss) c ↔
      (∃ r, s = .record r ∧ r.codepoint = c ∧ r.command ∈ lexicon.meaningsOf r.isAccent) ∨
        Reuses preset (lexicon.step preset s) ss c := by
  constructor
  · rintro ⟨before, r, after, heq, hr, hmem⟩
    cases before with
    | nil =>
      obtain ⟨rfl, rfl⟩ := List.cons.inj heq
      exact Or.inl ⟨r, rfl, hr, hmem⟩
    | cons s' before =>
      obtain ⟨rfl, rfl⟩ := List.cons.inj heq
      exact Or.inr ⟨before, r, after, rfl, hr, hmem⟩
  · rintro (⟨r, rfl, hr, hmem⟩ | ⟨before, r, after, rfl, hr, hmem⟩)
    · exact ⟨[], r, ss, rfl, hr, hmem⟩
    · exact ⟨s :: before, r, after, rfl, hr, hmem⟩

theorem turnsBackInto_steps_iff (hc : c ∈ preset.oneWay) {ss : List LexiconStep}
    (hnames : ∀ r, .record r ∈ ss → r.codepoint = c → r.infoAliases = []) :
    (lexicon.steps preset ss).TurnsBackInto c ↔
      lexicon.TurnsBackInto c ∨ Reuses preset lexicon ss c := by
  induction ss generalizing lexicon with
  | nil => simp [steps, Reuses]
  | cons s ss ih =>
    have hfirst : ∀ r, s = .record r → r.codepoint = c → r.infoAliases = [] := by
      rintro r rfl
      exact hnames r List.mem_cons_self
    have hrest : ∀ r, .record r ∈ ss → r.codepoint = c → r.infoAliases = [] :=
      fun r hr => hnames r (List.mem_cons_of_mem s hr)
    calc (lexicon.steps preset (s :: ss)).TurnsBackInto c
      _ ↔ (lexicon.step preset s).TurnsBackInto c ∨ Reuses preset (lexicon.step preset s) ss c :=
        ih hrest
      _ ↔ lexicon.TurnsBackInto c ∨ Reuses preset lexicon (s :: ss) c := by
        rw [turnsBackInto_step_iff hc hfirst, reuses_cons_iff, or_assoc]

/-- A character that no command of the preset stands for is not read back at the start. -/
theorem not_turnsBackInto_ofPreset (hpreset : ∀ pair ∈ preset.pairs, pair.2 ≠ c) :
    ¬ (ofPreset preset).TurnsBackInto c := by
  rintro ⟨accent, command, h⟩
  cases accent with
  | true => exact not_listed_empty command c h
  | false => exact hpreset _ (mem_of_lookup_reverse (listed_meanings_ofPreset.1 h)) rfl

/-- Every record stays in the table of commands. -/
theorem listed_commandsOf_ofSteps {ss : List LexiconStep} {r : SymbolRecord}
    (h : .record r ∈ ss) :
    Listed ((ofSteps preset ss).commandsOf r.isAccent) r.codepoint r.command := by
  obtain ⟨before, after, rfl⟩ := List.append_of_mem h
  have hgrows : (((ofPreset preset).steps preset before).addRecord preset r).Grows
      (ofSteps preset (before ++ .record r :: after)) := by
    rw [ofSteps, steps_append]
    exact (grows_steps preset _ after).finish
  refine (hgrows.commandsOf r.isAccent).listed ?_
  rw [commandsOf_addRecord_self]
  exact listed_addEntry.2 (Or.inr ⟨rfl, rfl⟩)

/-- **A character that the preset keeps out is read back exactly if one of its records comes to a
command with a meaning**, whatever the definitions and their order, unless a command of the preset
stands for it or one of its records has further names.  Either way its records are spelled with their
commands. -/
theorem turnsBackInto_iff (preset : Preset) {c : Char} (hc : c ∈ preset.oneWay)
    (hpreset : ∀ pair ∈ preset.pairs, pair.2 ≠ c) (ss : List LexiconStep)
    (hnames : ∀ r, .record r ∈ ss → r.codepoint = c → r.infoAliases = []) :
    ((ofSteps preset ss).TurnsBackInto c ↔ Reuses preset (ofPreset preset) ss c) ∧
      ∀ r, .record r ∈ ss → r.codepoint = c →
        Listed ((ofSteps preset ss).commandsOf r.isAccent) c r.command := by
  constructor
  · calc (ofSteps preset ss).TurnsBackInto c
      _ ↔ ((ofPreset preset).steps preset ss).TurnsBackInto c := Iff.rfl
      _ ↔ (ofPreset preset).TurnsBackInto c ∨ Reuses preset (ofPreset preset) ss c :=
        turnsBackInto_steps_iff hc hnames
      _ ↔ Reuses preset (ofPreset preset) ss c :=
        or_iff_right (not_turnsBackInto_ofPreset hpreset)
  · rintro r hr rfl
    exact listed_commandsOf_ofSteps hr

/-- The quantifier and a radical, each with a command of its own. -/
def separate : List LexiconStep :=
  [.record ⟨'∀', "\\forall", "\\mathord", "for all"⟩,
    .record ⟨'√', "\\sqrt", "\\mathradical", "radical"⟩]

/-- A radical with a command of its own is spelled and not read back. -/
theorem turnsBackInto_iff_separate :
    '√' ∈ Preset.usual.oneWay ∧ (∀ pair ∈ Preset.usual.pairs, pair.2 ≠ '√') ∧
      (∀ r, .record r ∈ separate → r.codepoint = '√' → r.infoAliases = []) ∧
      ¬ (ofSteps .usual separate).TurnsBackInto '√' ∧
      Listed ((ofSteps .usual separate).commandsOf false) '√' "\\sqrt" := by
  have hc : '√' ∈ Preset.usual.oneWay := by decide
  have hpreset : ∀ pair ∈ Preset.usual.pairs, pair.2 ≠ '√' := by decide
  have hnames : ∀ r, .record r ∈ separate → r.codepoint = '√' → r.infoAliases = [] := by
    intro r hr _
    simp only [separate, List.mem_cons, LexiconStep.record.injEq, List.not_mem_nil, or_false] at hr
    rcases hr with rfl | rfl <;> decide +kernel
  obtain ⟨hiff, hlisted⟩ := turnsBackInto_iff .usual hc hpreset separate hnames
  refine ⟨hc, hpreset, hnames, ?_, hlisted _ (List.mem_cons_of_mem _ List.mem_cons_self) rfl⟩
  -- The first record is of another character, and the second one has a new command.
  rw [hiff, separate, reuses_cons_iff, reuses_cons_iff]
  rintro (⟨r, hr, hcode, -⟩ | ⟨r, hr, -, hmem⟩ | ⟨before, r, after, heq, -⟩)
  · obtain rfl := LexiconStep.record.inj hr
    exact absurd hcode (by decide)
  · obtain rfl := LexiconStep.record.inj hr
    exact absurd hmem (by decide +kernel)
  · exact List.cons_ne_nil _ _ (List.append_eq_nil_iff.1 heq.symm).2

/-- Two characters with one command, the second of them a radical. -/
def shared : Definitions where
  name := "in"
  records := [⟨'∀', "\\all", "\\mathord", "for all"⟩, ⟨'√', "\\all", "\\mathord", "square root"⟩]

/-- A radical is read back where its command means another character first. -/
theorem turnsBackInto_shared :
    (∀ pair ∈ Preset.usual.pairs, pair.2 ∉ Preset.usual.oneWay) ∧
      (∀ r ∈ shared.records, r.infoAliases = []) ∧ '√' ∈ Preset.usual.oneWay ∧
      (build .usual [shared]).meanings["\\all"]? = some ['∀', '√'] := by
  decide +kernel

end Lexicon

end TexGlyph
