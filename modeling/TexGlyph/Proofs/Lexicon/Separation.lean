import TexGlyph.Proofs.Lexicon.Meaning
import TexGlyph.Proofs.Lexicon.OneWay
import TexGlyph.Proofs.Lexicon.Table

/-!
# Accents and symbols in a lexicon

A definition is about accents or about symbols, and it neither reads nor changes the tables of the
other kind: lexicons with the same tables of one kind have the same tables of that kind after any
definition (`Lexicon.SameTables.step`), and a definition of the other kind leaves them alone
(`Lexicon.sameTables_step_of_ne`).  So each kind of tables comes from the definitions of its kind
alone (`Lexicon.sameTables_steps_ofKind`).  The respellings are derived from the tables of symbols,
and the Greek letters are those of the preset, so the whole lexicon depends on the two kinds of
definitions one by one, and not on how they come in between each other (`Lexicon.ofSteps_separate`).
-/

namespace TexGlyph

namespace LexiconStep

/-- Whether a definition is about an accent; an alias is about symbols. -/
def isAccent : LexiconStep → Bool
  | record r => r.isAccent
  | synonym _ _ => false
  | malformed _ _ => false

/-- The definitions about accents, or those about symbols. -/
def ofKind (accent : Bool) (ss : List LexiconStep) : List LexiconStep :=
  ss.filter (·.isAccent == accent)

end LexiconStep

namespace Lexicon

/-- Whether two lexicons have the same tables of accents, or of symbols. -/
structure SameTables (accent : Bool) (lexicon other : Lexicon) : Prop where
  /-- The commands of characters. -/
  commands : lexicon.commandsOf accent = other.commandsOf accent
  /-- The characters of commands. -/
  meanings : lexicon.meaningsOf accent = other.meaningsOf accent

namespace SameTables

variable {accent : Bool} {lexicon other : Lexicon}

theorem refl (accent : Bool) (lexicon : Lexicon) : SameTables accent lexicon lexicon := ⟨rfl, rfl⟩

theorem symm (h : SameTables accent lexicon other) : SameTables accent other lexicon :=
  ⟨h.commands.symm, h.meanings.symm⟩

theorem trans (h : SameTables accent lexicon other) {last : Lexicon}
    (h' : SameTables accent other last) : SameTables accent lexicon last :=
  ⟨h.commands.trans h'.commands, h.meanings.trans h'.meanings⟩

end SameTables

variable {preset : Preset} {lexicon : Lexicon}

/-! ### The tables after one definition -/

/-- A record changes the commands of its own kind only. -/
theorem commandsOf_addRecord (r : SymbolRecord) (accent : Bool) :
    (lexicon.addRecord preset r).commandsOf accent =
      if accent = r.isAccent then addEntry (lexicon.commandsOf accent) r.codepoint r.command
      else lexicon.commandsOf accent := by
  unfold addRecord
  cases accent <;> cases r.isAccent <;> rfl

/-- An alias changes no commands. -/
theorem commandsOf_addAlias (a : Alias) (accent : Bool) :
    (lexicon.addAlias a).commandsOf accent = lexicon.commandsOf accent := by
  unfold addAlias
  split
  · rfl
  · cases accent <;> rfl

/-- An alias changes the meanings of symbols by what they are. -/
theorem meaningsOf_addAlias (a : Alias) (accent : Bool) :
    (lexicon.addAlias a).meaningsOf accent =
      if accent then lexicon.meaningsOf accent
      else ((lexicon.meaningsOf accent)[a.target]?.getD []).foldl (addEntry · a.name ·)
        (lexicon.meaningsOf accent) := by
  unfold addAlias
  split
  · -- A target without a meaning has nothing to hand on.
    rename_i hnone
    cases accent with
    | true => rfl
    | false =>
      show lexicon.meanings =
        (lexicon.meanings[a.target]?.getD []).foldl (addEntry · a.name ·) lexicon.meanings
      rw [hnone]
      rfl
  · rename_i meanings hsome
    cases accent with
    | true => rfl
    | false =>
      show meanings.foldl (addEntry · a.name ·) lexicon.meanings =
        (lexicon.meanings[a.target]?.getD []).foldl (addEntry · a.name ·) lexicon.meanings
      rw [hsome]
      rfl

/-- **A definition does not read the tables of the other kind**: what one kind becomes depends on
this kind only. -/
theorem SameTables.step {accent : Bool} {other : Lexicon} (h : SameTables accent lexicon other)
    (s : LexiconStep) : SameTables accent (lexicon.step preset s) (other.step preset s) := by
  cases s with
  | record r =>
    constructor
    · rw [Lexicon.step, Lexicon.step, commandsOf_addRecord, commandsOf_addRecord, h.commands]
    · rw [Lexicon.step, Lexicon.step, meaningsOf_addRecord, meaningsOf_addRecord, h.meanings]
  | synonym source a =>
    constructor
    · rw [Lexicon.step, Lexicon.step, commandsOf_addAlias, commandsOf_addAlias, h.commands]
    · rw [Lexicon.step, Lexicon.step, meaningsOf_addAlias, meaningsOf_addAlias, h.meanings]
  | malformed source line => exact h

/-- **A definition does not change the tables of the other kind.** -/
theorem sameTables_step_of_ne {accent : Bool} {s : LexiconStep} (h : s.isAccent ≠ accent) :
    SameTables accent (lexicon.step preset s) lexicon := by
  cases s with
  | record r =>
    have hne : accent ≠ r.isAccent := Ne.symm h
    exact ⟨by rw [step, commandsOf_addRecord, if_neg hne],
      by rw [step, meaningsOf_addRecord, if_neg hne]⟩
  | synonym source a =>
    cases accent with
    | true => exact ⟨commandsOf_addAlias a true, meaningsOf_addAlias a true⟩
    | false => exact absurd rfl h
  | malformed source line => exact .refl accent lexicon

/-! ### The tables after all definitions -/

theorem SameTables.steps {accent : Bool} {other : Lexicon} (h : SameTables accent lexicon other)
    (ss : List LexiconStep) : SameTables accent (lexicon.steps preset ss) (other.steps preset ss) := by
  induction ss generalizing lexicon other with
  | nil => exact h
  | cons s ss ih => exact ih (h.step s)

/-- The tables of a kind are made by the definitions of this kind. -/
theorem sameTables_steps_ofKind (preset : Preset) (accent : Bool) (lexicon : Lexicon)
    (ss : List LexiconStep) :
    SameTables accent (lexicon.steps preset ss)
      (lexicon.steps preset (LexiconStep.ofKind accent ss)) := by
  induction ss generalizing lexicon with
  | nil => exact .refl accent lexicon
  | cons s ss ih =>
    by_cases hs : s.isAccent = accent
    · rw [LexiconStep.ofKind, List.filter_cons_of_pos (by simpa using hs)]
      exact ih (lexicon.step preset s)
    · -- The definition that is passed over has left the tables as they were.
      rw [LexiconStep.ofKind, List.filter_cons_of_neg (by simpa using hs)]
      exact ((sameTables_step_of_ne hs).steps ss).trans (ih lexicon)

/-- The respellings are derived from the tables of symbols. -/
theorem SameTables.respellings_finish {other : Lexicon} (h : SameTables false lexicon other) :
    lexicon.finish.respellings = other.finish.respellings := by
  have hcommands : lexicon.commands = other.commands := h.commands
  have hmeanings : lexicon.meanings = other.meanings := h.meanings
  -- A respelling asks for canonical commands, which are symbols, and for nothing else.
  have hrespelling : lexicon.respelling? = other.respelling? := by
    funext command meanings
    have hcanonical : lexicon.canonical? = other.canonical? := by
      funext c
      rw [canonical?, canonical?, hcommands]
    rw [respelling?, respelling?, hcanonical]
  rw [respellings_finish_eq_derive, respellings_finish_eq_derive, hrespelling, hmeanings]

/-- A finished lexicon is given by its tables of both kinds and its Greek letters. -/
theorem finish_eq_of_sameTables {other : Lexicon} (hsymbols : SameTables false lexicon other)
    (haccents : SameTables true lexicon other) (hgreek : lexicon.greek = other.greek) :
    lexicon.finish = other.finish :=
  calc lexicon.finish
    _ = ⟨lexicon.commandsOf false, lexicon.meaningsOf false, lexicon.commandsOf true,
          lexicon.meaningsOf true, lexicon.greek, lexicon.finish.respellings⟩ := rfl
    _ = ⟨other.commandsOf false, other.meaningsOf false, other.commandsOf true,
          other.meaningsOf true, other.greek, other.finish.respellings⟩ := by
      rw [hsymbols.commands, hsymbols.meanings, haccents.commands, haccents.meanings, hgreek,
        hsymbols.respellings_finish]
    _ = other.finish := rfl

/-- **Accents and symbols do not interfere.**  The tables of symbols and the respellings are those of
the definitions about symbols alone, the tables of accents are those of the definitions about accents
alone, and the Greek letters are those of the preset.  So definitions give the same lexicon in every
order that keeps the order of those about accents and the order of the others. -/
theorem ofSteps_separate (preset : Preset) (ss : List LexiconStep) :
    (let symbols := ofSteps preset (LexiconStep.ofKind false ss)
      let accents := ofSteps preset (LexiconStep.ofKind true ss)
      (ofSteps preset ss).commands = symbols.commands ∧
      (ofSteps preset ss).meanings = symbols.meanings ∧
      (ofSteps preset ss).respellings = symbols.respellings ∧
      (ofSteps preset ss).accentCommands = accents.accentCommands ∧
      (ofSteps preset ss).accentMeanings = accents.accentMeanings) ∧
    (∀ command, (ofSteps preset ss).greek[command]? = (preset.letter? command).map ([·])) ∧
    ∀ ss', LexiconStep.ofKind true ss' = LexiconStep.ofKind true ss →
      LexiconStep.ofKind false ss' = LexiconStep.ofKind false ss →
      ofSteps preset ss' = ofSteps preset ss := by
  have hsymbols := sameTables_steps_ofKind preset false (ofPreset preset)
  have haccents := sameTables_steps_ofKind preset true (ofPreset preset)
  have hgreek := greek_steps preset (ofPreset preset)
  refine ⟨⟨(hsymbols ss).commands, (hsymbols ss).meanings, (hsymbols ss).respellings_finish,
    (haccents ss).commands, (haccents ss).meanings⟩, fun command => ?_, fun ss' htrue hfalse => ?_⟩
  · -- Finishing leaves the letters as they are.
    have hletters : (ofSteps preset ss).greek = (ofPreset preset).greek := hgreek ss
    rw [hletters, getElem?_greek_ofPreset]
  · apply finish_eq_of_sameTables
    · exact (hsymbols ss').trans (hfalse ▸ (hsymbols ss).symm)
    · exact (haccents ss').trans (htrue ▸ (haccents ss).symm)
    · exact (hgreek ss').trans (hgreek ss).symm

/-- A bar as a symbol and as an accent, with an alias for its command. -/
def bars : List LexiconStep :=
  [.record ⟨'\u0304', "\\bar", "\\mathaccent", "macron /overline"⟩,
    .record ⟨'\u00AF', "\\bar", "\\mathord", "macron /overline"⟩,
    .synonym "in" ⟨"\\macron", "\\bar"⟩,
    .record ⟨'\u0304', "\\macron", "\\mathord", "macron"⟩,
    .record ⟨'\u00AF', "\\macron", "\\mathaccent", "macron"⟩]

/-- The same definitions, those about symbols first. -/
def sortedBars : List LexiconStep :=
  LexiconStep.ofKind false bars ++ LexiconStep.ofKind true bars

/-- Commands and characters that are both symbols and accents do not get in each other's way. -/
theorem ofSteps_separate_bars :
    (LexiconStep.ofKind true sortedBars = LexiconStep.ofKind true bars ∧
      LexiconStep.ofKind false sortedBars = LexiconStep.ofKind false bars ∧ sortedBars ≠ bars ∧
      (ofSteps .usual bars).meanings["\\macron"]? = some ['\u00AF', '\u0304'] ∧
      (ofSteps .usual bars).accentMeanings["\\macron"]? = some ['\u00AF']) ∧
    ofSteps .usual sortedBars = ofSteps .usual bars := by
  have htrue : LexiconStep.ofKind true sortedBars = LexiconStep.ofKind true bars := by
    decide +kernel
  have hfalse : LexiconStep.ofKind false sortedBars = LexiconStep.ofKind false bars := by
    decide +kernel
  refine ⟨⟨htrue, hfalse, by decide +kernel, by decide +kernel, by decide +kernel⟩, ?_⟩
  exact (ofSteps_separate .usual bars).2.2 sortedBars htrue hfalse

end Lexicon

end TexGlyph
