import TexGlyph.Proofs.Latex.Substitution
import TexGlyph.Proofs.Lexicon.Building
import TexGlyph.Proofs.Lexicon.Table
import TexGlyph.Proofs.Spelling.Idempotence

/-!
# There and back again

A lexicon is used in both directions, and these are the two ways around.  A text whose characters
outside ASCII have control words of their own comes back from its spelling, with a blank after each
of these characters (`Lexicon.convert_spell`).  A control word comes back as the canonical command
of its character, and the table of respellings says which command this is
(`Lexicon.spell_convert`).

Both rest on the same two facts: a character with a command is spelled as this command and a blank,
and the blank is where the control word ends when it is read again.
-/

namespace TexGlyph.Lexicon

open Speller

variable {lexicon : Lexicon}

/-! ### The way back -/

/-- On the way back, a symbol command is replaced by its canonical character. -/
theorem getElem?_replacements_ofLexicon (lexicon : Lexicon) (command : String) :
    (Substitution.ofLexicon lexicon true false).replacements[command]? =
      (lexicon.meanings[command]?.bind List.head?).map fun c => String.ofList [c] :=
  lexicon.getElem?_symbolReplacements command

theorem getElem?_replacements_of_meaning {command : String} {c : Char}
    (hmeaning : lexicon.meanings[command]?.bind List.head? = some c) :
    (Substitution.ofLexicon lexicon true false).replacements[command]? =
      some (String.ofList [c]) := by
  rw [getElem?_replacements_ofLexicon, hmeaning, Option.map_some]

/-- Whether no command of a lexicon is named like an active character. -/
def KeepsActive (lexicon : Lexicon) : Prop :=
  ∀ command ∈ lexicon.meanings, ¬ "\\active::".toList <+: command.toList

theorem KeepsActive.getElem?_replacements (h : lexicon.KeepsActive) (c : Char) :
    (Substitution.ofLexicon lexicon true false).replacements["\\" ++ Token.activeName c]? =
      none := by
  have hprefix : "\\active::".toList <+: ("\\" ++ Token.activeName c).toList :=
    ⟨[c], by simp [Token.activeName]⟩
  have hnot : "\\" ++ Token.activeName c ∉ lexicon.meanings := fun hmem => h _ hmem hprefix
  rw [getElem?_replacements_ofLexicon, Std.ExtTreeMap.getElem?_eq_none hnot]
  rfl

/-- A command with its blank turns into its character and the blank. -/
theorem replaced_commandFragment {command : String} {c : Char} (hcommand : IsControlWord command)
    (hmeaning : lexicon.meanings[command]?.bind List.head? = some c) (rest : List Char) :
    (Substitution.ofLexicon lexicon true false).replaced
        ((commandFragment command).toList ++ rest) =
      c :: ' ' :: (Substitution.ofLexicon lexicon true false).replaced rest := by
  have hreplacement := getElem?_replacements_of_meaning hmeaning
  -- The blank ends the control word, and is a plain character itself.
  have hblank : ∀ x ∈ (' ' :: rest).head?, Category.isLetter x = false := by
    rintro x ⟨⟩
    decide
  have hfragment : (commandFragment command).toList ++ rest = command.toList ++ ' ' :: rest := by
    rw [commandFragment, String.toList_append, List.append_assoc]
    rfl
  rw [hfragment, Substitution.replaced_word_append hcommand hreplacement _ hblank,
    Substitution.replaced_cons_of_isText (by decide), String.toList_ofList]
  rfl

/-! ### From a text to its spelling and back -/

/-- Whether a lexicon has a control word for a character that means this character, and none of
the other rules of spelling takes the character up. -/
structure Restores (lexicon : Lexicon) (c : Char) : Prop where
  /-- The character lies outside ASCII. -/
  foreign : isForeign c = true
  /-- It has no decomposition. -/
  whole : Decomposition.of? c = none
  /-- It is no mark with an accent command. -/
  unaccented : accentTag? c = none
  /-- It is not named as a Greek letter. -/
  unnamed : ∀ name, charName? c = some name → ¬ "GREEK".toList <+: name.toList
  /-- Its canonical command is a control word whose canonical character it is. -/
  command : ∃ command, lexicon.canonical? c = some command ∧ IsControlWord command ∧
    lexicon.meanings[command]?.bind List.head? = some c

/-- What comes back for a character: outside ASCII, the character and a blank. -/
def restored (c : Char) : List Char := if isForeign c then [c, ' '] else [c]

/-- The canonical command of a character outside ASCII, and any other character itself. -/
def fragment (lexicon : Lexicon) (c : Char) : String :=
  if isForeign c then commandFragment ((lexicon.canonical? c).getD "") else charFragment c

/-- With the usual preferences, a character that the lexicon restores is spelled with its
command. -/
theorem Restores.writesOnce {c : Char} (h : lexicon.Restores c) :
    Action.WritesOnce ((Speller.mk {} lexicon).actions c) (lexicon.fragment c) := by
  obtain ⟨command, hcommand, _⟩ := h.command
  have hligature : (Speller.mk {} lexicon).ligature? c = none := rfl
  have hmark : (Speller.mk {} lexicon).mark? c = none := by
    rw [mark?, h.unaccented, ite_self]
  have hdirect := (Speller.mk {} lexicon).direct?_eq_none hligature
    Std.ExtTreeMap.getElem?_empty rfl hmark
  have hfragment : lexicon.fragment c = commandFragment command := by
    rw [fragment, if_pos h.foreign, hcommand, Option.getD_some]
  rw [Speller.actions_of_no_decomposition _ hdirect h.whole,
    Speller.fallback_of_canonical? _ h.foreign h.unnamed hcommand, hfragment]
  exact ⟨[.symbol c command], rfl⟩

/-- With the usual preferences, a character of ASCII is spelled as itself. -/
theorem writesOnce_of_ascii {c : Char} (h : isForeign c = false) :
    Action.WritesOnce ((Speller.mk {} lexicon).actions c) (lexicon.fragment c) := by
  have hkeeps : (Speller.mk {} lexicon).Keeps c := keeps_of_ascii h Std.ExtTreeMap.getElem?_empty
  have hfragment : lexicon.fragment c = charFragment c := by
    rw [fragment, h, if_neg Bool.false_ne_true]
  rw [hfragment]
  exact hkeeps

/-- What is written for a character comes back as the character, wherever it stands. -/
theorem replaced_fragment_append (hactive : lexicon.KeepsActive) {c : Char}
    (h : isForeign c = false ∧ c ≠ '\\' ∧ c ≠ '%' ∨ lexicon.Restores c) (rest : List Char) :
    (Substitution.ofLexicon lexicon true false).replaced
        ((lexicon.fragment c).toList ++ rest) =
      restored c ++ (Substitution.ofLexicon lexicon true false).replaced rest := by
  rcases h with ⟨hascii, hescape, hcomment⟩ | h
  · rw [fragment, restored, hascii, if_neg Bool.false_ne_true, if_neg Bool.false_ne_true,
      charFragment, String.toList_ofList]
    exact Substitution.replaced_cons hactive.getElem?_replacements hescape hcomment rest
  · obtain ⟨command, hcommand, hword, hmeaning⟩ := h.command
    rw [fragment, restored, if_pos h.foreign, if_pos h.foreign, hcommand, Option.getD_some]
    exact replaced_commandFragment hword hmeaning rest

/-- What is written for the characters of a text comes back as these characters. -/
theorem replaced_flatMap_fragment (hactive : lexicon.KeepsActive) {cs : List Char}
    (h : ∀ c ∈ cs, isForeign c = false ∧ c ≠ '\\' ∧ c ≠ '%' ∨ lexicon.Restores c) :
    (Substitution.ofLexicon lexicon true false).replaced
        (cs.flatMap fun c => (lexicon.fragment c).toList) =
      cs.flatMap restored := by
  induction cs with
  | nil => exact Substitution.replaced_nil
  | cons c cs ih =>
    obtain ⟨hc, hcs⟩ := List.forall_mem_cons.1 h
    rw [List.flatMap_cons, List.flatMap_cons, replaced_fragment_append hactive hc, ih hcs]

/-- **A text comes back from its spelling**, with a blank after each character outside ASCII, if
the lexicon restores these characters and has no replacement for active ones. -/
theorem convert_spell (lexicon : Lexicon) (hactive : lexicon.KeepsActive) (p : Position)
    (text : String)
    (htext : ∀ c ∈ text.toList,
      isForeign c = false ∧ c ≠ '\\' ∧ c ≠ '%' ∨ lexicon.Restores c) :
    (Substitution.ofLexicon lexicon true false).convert
        ((Speller.mk {} lexicon).spell p text).text =
      String.ofList (text.toList.flatMap restored) := by
  have hwrites : ∀ c ∈ text.toList,
      Action.WritesOnce ((Speller.mk {} lexicon).actions c) (lexicon.fragment c) := by
    intro c hc
    rcases htext c hc with ⟨hascii, _⟩ | hrestores
    · exact writesOnce_of_ascii hascii
    · exact hrestores.writesOnce
  rw [← String.toList_inj, Substitution.toList_convert, Speller.text_spell_eq_join _ hwrites,
    String.toList_join, List.flatMap_map, String.toList_ofList]
  exact replaced_flatMap_fragment hactive htext

/-- A lexicon with one symbol. -/
def crossing : Lexicon where
  commands := Std.ExtTreeMap.insert ∅ '∩' ["\\cap"]
  meanings := Std.ExtTreeMap.insert ∅ "\\cap" ['∩']

theorem keepsActive_crossing : crossing.KeepsActive := by
  intro command hcommand
  have hcap : command = "\\cap" := by
    simp only [crossing, Std.ExtTreeMap.mem_insert, Std.LawfulEqOrd.compare_eq_iff_eq,
      Std.ExtTreeMap.not_mem_empty, or_false] at hcommand
    exact hcommand.symm
  rw [hcap]
  decide

theorem restores_crossing : crossing.Restores '∩' where
  foreign := by decide
  whole := by decide +kernel
  unaccented := by decide
  unnamed name hname := by
    have hall : (charName? '∩').all
        (fun name => !"GREEK".toList.isPrefixOf name.toList) = true := by
      decide +kernel
    rw [hname, Option.all_some] at hall
    intro hprefix
    rw [List.isPrefixOf_iff_prefix.2 hprefix] at hall
    cases hall
  command := by
    have hword : IsControlWord "\\cap" :=
      ⟨"cap".toList, by decide, List.all_eq_true.1 (by decide), by decide⟩
    exact ⟨"\\cap", by decide +kernel, hword, by decide +kernel⟩

/-- Letters, braces and an active character around a symbol that stands twice. -/
theorem convert_spell_crossing :
    crossing.KeepsActive ∧
      (∀ c ∈ "a∩b\x7b~∩\x7d".toList,
        isForeign c = false ∧ c ≠ '\\' ∧ c ≠ '%' ∨ crossing.Restores c) ∧
      ((Speller.mk {} crossing).spell ⟨"in", 1, 0⟩ "a∩b\x7b~∩\x7d").text =
        "a\\cap b\x7b~\\cap \x7d" ∧
      (Substitution.ofLexicon crossing true false).convert
          ((Speller.mk {} crossing).spell ⟨"in", 1, 0⟩ "a∩b\x7b~∩\x7d").text =
        "a∩ b\x7b~∩ \x7d" := by
  have htext : ∀ c ∈ "a∩b\x7b~∩\x7d".toList,
      isForeign c = false ∧ c ≠ '\\' ∧ c ≠ '%' ∨ crossing.Restores c := by
    intro c hc
    have hall : "a∩b\x7b~∩\x7d".toList.all (fun c =>
        c == '∩' || (!isForeign c && c != '\\' && c != '%')) = true := by decide
    have hc := List.all_eq_true.1 hall c hc
    rw [Bool.or_eq_true, beq_iff_eq] at hc
    rcases hc with rfl | hascii
    · exact Or.inr restores_crossing
    · exact Or.inl (by simpa [and_assoc] using hascii)
  refine ⟨keepsActive_crossing, htext, by decide +kernel, ?_⟩
  rw [convert_spell crossing keepsActive_crossing ⟨"in", 1, 0⟩ _ htext]
  decide

/-! ### From a command to its character and back -/

/-- On its own, a control word turns into its canonical character. -/
theorem convert_word {command : String} {c : Char} (hcommand : IsControlWord command)
    (hmeaning : lexicon.meanings[command]?.bind List.head? = some c) :
    (Substitution.ofLexicon lexicon true false).convert command = String.ofList [c] := by
  have hword := Substitution.replaced_word_append hcommand
    (getElem?_replacements_of_meaning hmeaning) [] fun _ hmem => absurd hmem (Option.not_mem_none _)
  rw [List.append_nil, Substitution.replaced_nil, List.append_nil] at hword
  rw [← String.toList_inj, Substitution.toList_convert, hword]

/-- Where formulas are preferred, a character outside ASCII is spelled with its canonical command,
whatever else could be done with it. -/
theorem text_spell_preferMath {c : Char} {command : String} (hforeign : isForeign c = true)
    (hcommand : lexicon.canonical? c = some command) (p : Position) :
    ((Speller.mk { preferMath := true } lexicon).spell p (String.ofList [c])).text =
      commandFragment command := by
  have hligature : (Speller.mk { preferMath := true } lexicon).ligature? c = none := rfl
  have hsymbol : (Speller.mk { preferMath := true } lexicon).symbol? c = some command := by
    rw [symbol?, if_pos hforeign]
    exact hcommand
  have hdirect := (Speller.mk { preferMath := true } lexicon).direct?_of_preferred hligature
    Std.ExtTreeMap.getElem?_empty hsymbol
  exact Speller.text_spell_singleton _ ⟨[.symbol c command], Speller.actions_of_direct? _ hdirect⟩ p

/-- **The respellings say what becomes of a command on the way to its character and back**: it
comes back respelled, or as it was if it has no respelling, and no command is respelled as itself.
This holds for every lexicon made from a preset and definitions. -/
theorem spell_convert (preset : Preset) (steps : List LexiconStep) :
    (∀ (command : String) (c : Char), IsControlWord command →
      (ofSteps preset steps).meanings[command]?.bind List.head? = some c →
      isForeign c = true → c ∈ (ofSteps preset steps).commands →
      ∀ p, ((Speller.mk { preferMath := true } (ofSteps preset steps)).spell p
          ((Substitution.ofLexicon (ofSteps preset steps) true false).convert command)).text =
        (ofSteps preset steps).respellings[command]?.getD command ++ " ") ∧
      ∀ command : String, (ofSteps preset steps).respellings[command]? ≠ some command := by
  constructor
  · intro command c hcommand hmeaning hforeign hc p
    obtain ⟨canonical, hcanonical⟩ := (kept_ofSteps preset steps).exists_canonical? hc
    rw [convert_word hcommand hmeaning, text_spell_preferMath hforeign hcanonical]
    have hrespelled : (ofSteps preset steps).respellings[command]?.getD command = canonical :=
      respellings_finish_getD ((ofPreset preset).steps preset steps) hmeaning hcanonical
    rw [hrespelled]
    rfl
  · exact getElem?_respellings_finish_ne _

/-- The definitions of a command and of another name for it. -/
def unequal : List LexiconStep :=
  [.record ⟨'≠', "\\ne", "\\mathrel", "not equal"⟩, .synonym "in" ⟨"\\unequal", "\\ne"⟩]

/-- The other name comes back as the command. -/
theorem spell_convert_unequal :
    IsControlWord "\\unequal" ∧
      (ofSteps .usual unequal).meanings["\\unequal"]?.bind List.head? = some '≠' ∧
      isForeign '≠' = true ∧ '≠' ∈ (ofSteps .usual unequal).commands ∧
      (ofSteps .usual unequal).respellings["\\unequal"]? = some "\\ne" ∧
      ((Speller.mk { preferMath := true } (ofSteps .usual unequal)).spell ⟨"in", 1, 0⟩
        ((Substitution.ofLexicon (ofSteps .usual unequal) true false).convert "\\unequal")).text =
      "\\ne " := by
  have hcommand : IsControlWord "\\unequal" :=
    ⟨"unequal".toList, by decide, List.all_eq_true.1 (by decide), by decide⟩
  have hmeaning : (ofSteps .usual unequal).meanings["\\unequal"]?.bind List.head? = some '≠' := by
    decide +kernel
  have hmem : '≠' ∈ (ofSteps .usual unequal).commands := by
    decide +kernel
  have hrespelling : (ofSteps .usual unequal).respellings["\\unequal"]? = some "\\ne" := by
    decide +kernel
  refine ⟨hcommand, hmeaning, by decide, hmem, hrespelling, ?_⟩
  rw [(spell_convert .usual unequal).1 "\\unequal" '≠' hcommand hmeaning (by decide) hmem,
    hrespelling]
  rfl

end TexGlyph.Lexicon
