import TexGlyph.Proofs.Lexicon.Growth

/-!
# Canonical commands

The canonical command of a character is decided by the first definition that has one for it.  An
entry is only appended, so `addEntry` changes what comes first in the list of a key only where there
is no list yet (`head?_addEntry_self`), and a step asks its own record for a command only where the
lexicon has none (`canonical?_step`).  The command of a finished lexicon is therefore that of its
preset, or else that of the first record of a symbol that is about the character
(`canonical?_ofSteps`, `canonical?_build`). Aliases, records of accents and records of other
characters have no part in it.
-/

namespace TexGlyph

/-- An entry comes first in a list that it is added to only if the list was empty. -/
theorem head?_appended {α : Type} [BEq α] (entries : List α) (entry : α) :
    (appended entries entry).head? = entries.head?.or (some entry) := by
  cases entries with
  | nil => rfl
  | cons first entries =>
    unfold appended
    split <;> rfl

/-- An entry comes first in the list of its key only if nothing else does. -/
theorem head?_addEntry_self {κ α : Type} [Ord κ] [Std.TransOrd κ] [BEq α] [LawfulBEq α]
    (table : Std.ExtTreeMap κ (List α) compare) (key : κ) (entry : α) :
    (addEntry table key entry)[key]?.bind List.head? =
      (table[key]?.bind List.head?).or (some entry) := by
  rw [getElem?_addEntry_self, Option.bind_some, head?_appended]
  cases table[key]? <;> rfl

/-- The command that a record gives to a character: one of an accent gives none. -/
def SymbolRecord.commandFor? (c : Char) (r : SymbolRecord) : Option String :=
  if r.codepoint = c && !r.isAccent then some r.command else none

/-- The command that a definition gives to a character. -/
def LexiconStep.commandFor? (c : Char) : LexiconStep → Option String
  | .record r => r.commandFor? c
  | .synonym _ _ => none
  | .malformed _ _ => none

/-- The command that the definitions of a source give to a character. -/
def Definitions.commandFor? (c : Char) (d : Definitions) : Option String :=
  d.records.findSome? (SymbolRecord.commandFor? c)

/-- A source gives a character the command of the first of its records that has one for it. -/
theorem LexiconStep.findSome?_records (c : Char) (d : Definitions) :
    (d.malformed.map (malformed d.name) ++ d.records.map record).findSome? (commandFor? c) =
      d.commandFor? c := by
  have hmalformed : (d.malformed.map (malformed d.name)).findSome? (commandFor? c) = none := by
    refine List.findSome?_eq_none_iff.2 fun step hstep => ?_
    obtain ⟨line, _, rfl⟩ := List.mem_map.1 hstep
    rfl
  rw [List.findSome?_append, hmalformed, Option.none_or, List.findSome?_map]
  rfl

/-- Of the definitions of several sources, only the records matter for the commands of characters.
-/
theorem LexiconStep.findSome?_ofSources (c : Char) (sources : List Definitions) :
    (ofSources sources).findSome? (commandFor? c) =
      sources.findSome? (Definitions.commandFor? c) := by
  have haliases : (sources.flatMap fun d => d.aliases.map (synonym d.name)).findSome?
      (commandFor? c) = none := by
    refine List.findSome?_eq_none_iff.2 fun step hstep => ?_
    obtain ⟨d, _, hstep⟩ := List.mem_flatMap.1 hstep
    obtain ⟨a, _, rfl⟩ := List.mem_map.1 hstep
    rfl
  rw [ofSources, List.findSome?_append, haliases, Option.or_none]
  clear haliases
  induction sources with
  | nil => rfl
  | cons d sources ih =>
    rw [List.flatMap_cons, List.findSome?_append, findSome?_records, ih, List.findSome?_cons]
    cases d.commandFor? c <;> rfl

namespace Lexicon

theorem canonical?_ofPreset (preset : Preset) (c : Char) :
    (ofPreset preset).canonical? c = preset.command? c := by
  rw [canonical?, getElem?_commands_ofPreset]
  cases preset.command? c <;> rfl

/-- A definition gives a character its command where it has none yet. -/
theorem canonical?_step (preset : Preset) (lexicon : Lexicon) (s : LexiconStep) (c : Char) :
    (lexicon.step preset s).canonical? c = (lexicon.canonical? c).or (s.commandFor? c) := by
  cases s with
  | malformed source line => exact (Option.or_none).symm
  | synonym source a =>
    have hcommands : (lexicon.addAlias a).commands = lexicon.commands := by
      unfold addAlias
      split <;> rfl
    rw [step, canonical?, hcommands, LexiconStep.commandFor?, Option.or_none, canonical?]
  | record r =>
    rw [step, addRecord, LexiconStep.commandFor?, SymbolRecord.commandFor?]
    -- An accent goes into another table, where canonical commands are not looked up.
    cases haccent : r.isAccent with
    | true => simp [canonical?]
    | false =>
      simp only [Bool.false_eq_true, ↓reduceIte, Bool.not_false, Bool.and_true, decide_eq_true_eq]
      by_cases hc : r.codepoint = c
      · subst hc
        rw [if_pos rfl]
        exact head?_addEntry_self lexicon.commands r.codepoint r.command
      · rw [if_neg hc, Option.or_none, canonical?, canonical?, getElem?_addEntry_of_ne _ hc]

/-- Several definitions give a character the command of the first that has one for it. -/
theorem canonical?_steps (preset : Preset) (lexicon : Lexicon) (ss : List LexiconStep) (c : Char) :
    (lexicon.steps preset ss).canonical? c =
      (lexicon.canonical? c).or (ss.findSome? (LexiconStep.commandFor? c)) := by
  induction ss generalizing lexicon with
  | nil => exact (Option.or_none).symm
  | cons s ss ih =>
    have hcons : lexicon.steps preset (s :: ss) = (lexicon.step preset s).steps preset ss := rfl
    rw [hcons, ih, canonical?_step, Option.or_assoc, List.findSome?_cons]
    cases s.commandFor? c <;> rfl

/-- **The canonical command of a finished lexicon** is that of the preset, or else that of the first
definition that has one. -/
theorem canonical?_ofSteps (preset : Preset) (ss : List LexiconStep) (c : Char) :
    (ofSteps preset ss).canonical? c =
      (preset.command? c).or (ss.findSome? (LexiconStep.commandFor? c)) := by
  rw [← canonical?_ofPreset, ← canonical?_steps]
  rfl

/-- **The canonical command of a lexicon that is made from sources** is that of the preset, or else
that of the first record of a symbol that is about the character. -/
theorem canonical?_build (preset : Preset) (sources : List Definitions) (c : Char) :
    (build preset sources).canonical? c =
      (preset.command? c).or (sources.findSome? (Definitions.commandFor? c)) := by
  rw [← LexiconStep.findSome?_ofSources, ← canonical?_ofSteps]
  rfl

end Lexicon

end TexGlyph
