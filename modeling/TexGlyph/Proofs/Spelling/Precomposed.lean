import TexGlyph.Proofs.Spelling.Text

/-!
# Composed characters and their parts

A letter with an accent can stand in a text as one character or as a letter and a combining mark.
The first is spelled by its decomposition: the letter is spelled apart and the command is put
around it.  The second is spelled in two steps: the letter writes a fragment, and the mark puts
the command over it.  Both give the same fragments (`push_composed`, `push_mark`), because a letter
that is no mark writes exactly one fragment, however deep its own decomposition goes.
-/

namespace TexGlyph.Speller

variable {s : Speller}

/-- A character that is no quote and no dash has no ASCII spelling, whatever is asked for. -/
theorem ligature?_eq_none {c : Char}
    (h : quoteSpellings.lookup c = none ∧ dashSpellings.lookup c = none) :
    s.ligature? c = none := by
  rw [ligature?, h.1, h.2, ite_self, ite_self]
  rfl

/-- A composed character puts the accent command around the fragment that its letter writes. -/
theorem push_composed (haccents : s.preferences.accents = true) {c base mark tag : Char}
    (hd : Decomposition.of? c = some (.accented base mark)) (htag : accentTag? mark = some tag)
    (hdirect : s.direct? c = none) {fragment : String}
    (hfragment : Action.WritesOnce (s.actions base) fragment) (stack : List String) :
    s.push stack c = applied (s.preferences.accentMode.command tag) fragment :: stack := by
  have hrendered : s.rendered c (.accented base mark) =
      Action.enclose (s.actions base) (applied (s.preferences.accentMode.command tag)) := by
    rw [rendered, decomposed, htag]
    simp only [haccents, ↓reduceIte]
  rw [push, s.actions_of_decomposition hdirect hd, hrendered,
    ((Action.writesOnce_enclose _ _).note_cons _).perform_eq, hfragment.apart_eq]

/-- A mark without a command of the user and without a preferred one is an accent. -/
theorem actions_of_accentTag? (haccents : s.preferences.accents = true) {mark tag : Char}
    (htag : accentTag? mark = some tag) (hcommand : s.preferences.overrides[mark]? = none)
    (hsymbol : (if s.preferences.preferMath then s.symbol? mark else none) = none) :
    s.actions mark = [.accent mark (s.preferences.accentMode.command tag)] := by
  have hligature : s.ligature? mark = none :=
    ligature?_eq_none (lookup_spellings_of_accentTag? htag)
  have hmark : s.mark? mark = some tag := by
    rw [mark?, haccents, isCombiningMark_of_accentTag? htag]
    exact htag
  exact s.actions_of_direct? (s.direct?_of_mark hligature hcommand hsymbol hmark)

/-- A mark puts its accent command over the last fragment. -/
theorem push_mark (haccents : s.preferences.accents = true) {mark tag : Char}
    (htag : accentTag? mark = some tag) (hcommand : s.preferences.overrides[mark]? = none)
    (hsymbol : (if s.preferences.preferMath then s.symbol? mark else none) = none)
    (fragment : String) (stack : List String) :
    s.push (fragment :: stack) mark =
      applied (s.preferences.accentMode.command tag) fragment :: stack := by
  rw [push, actions_of_accentTag? haccents htag hcommand hsymbol]
  rfl

/-- A character that decomposes into a base and a mark is spelled by its decomposition, unless
there is a command of the user or a preferred one. -/
theorem direct?_eq_none_of_accented {c base mark : Char}
    (hd : Decomposition.of? c = some (.accented base mark))
    (hcommand : s.preferences.overrides[c]? = none)
    (hsymbol : (if s.preferences.preferMath then s.symbol? c else none) = none) :
    s.direct? c = none :=
  s.direct?_eq_none (ligature?_eq_none (lookup_spellings_of_accented hd)) hcommand hsymbol
    (s.mark?_eq_none_of_decomposition hd)

/-- **A composed character and its parts are spelled alike**, whatever stands before and after. -/
theorem text_spell_composed (s : Speller) (haccents : s.preferences.accents = true)
    {c base mark tag : Char} (hd : Decomposition.of? c = some (.accented base mark))
    (htag : accentTag? mark = some tag) (hbase : accentTag? base = none)
    (hcommand : s.preferences.overrides[c]? = none)
    (hmarkCommand : s.preferences.overrides[mark]? = none)
    (hmath : s.preferences.preferMath = false ∨
      s.lexicon.canonical? c = none ∧ s.lexicon.canonical? mark = none)
    (p q : Position) (before after : String) :
    (s.spell p (before ++ String.ofList [c] ++ after)).text =
      (s.spell q (before ++ String.ofList [base, mark] ++ after)).text := by
  have hsymbol : ∀ x, (s.preferences.preferMath = false ∨ s.lexicon.canonical? x = none) →
      (if s.preferences.preferMath then s.symbol? x else none) = none := by
    rintro x (hoff | hnone)
    · rw [hoff]
      rfl
    · rw [symbol?, hnone, ite_self, ite_self]
  obtain ⟨fragment, hfragment⟩ := s.exists_writesOnce_actions hbase fun scalars hscalars =>
    Decomposition.isLigature_base_of_accented hd htag hscalars
  have hdirect := direct?_eq_none_of_accented hd hcommand (hsymbol c (hmath.imp_right And.left))
  -- Both write the base first and then put the accent on the fragment on top.
  have hstep : ∀ stack, s.push stack c = s.push (s.push stack base) mark := by
    intro stack
    calc s.push stack c
      _ = applied (s.preferences.accentMode.command tag) fragment :: stack :=
        push_composed haccents hd htag hdirect hfragment stack
      _ = s.push (fragment :: stack) mark :=
        (push_mark haccents htag hmarkCommand (hsymbol mark (hmath.imp_right And.right))
          fragment stack).symm
      _ = s.push (s.push stack base) mark :=
        congrArg (s.push · mark) (hfragment.perform_eq stack).symm
  rw [text_spell, text_spell]
  simp only [String.toList_append, String.toList_ofList, List.foldl_append, List.foldl_cons,
    List.foldl_nil, hstep]

/-- A speller for formulas, with a command of the user for one of the letters. -/
def diaeretic : Speller where
  preferences := Preferences.withOverride { preferMath := true, accentMode := .math } 'ü' "\\ue"
  lexicon := { commands := Std.ExtTreeMap.insert ∅ 'Ω' ["\\Omega"] }

/-- A letter with a command of the user under an accent, after a letter with two accents. -/
theorem text_spell_composed_diaeretic :
    diaeretic.preferences.accents = true ∧
      Decomposition.of? 'ǘ' = some (.accented 'ü' '\u0301') ∧
      (diaeretic.spell ⟨"in", 1, 0⟩ "ṩǘ\u0304").text =
        "\\dot\x7b\\d\x7bs\x7d\x7d\\bar\x7b\\acute\x7b\\ue \x7d\x7d" ∧
      (diaeretic.spell ⟨"in", 1, 0⟩ ("ṩ" ++ String.ofList ['ǘ'] ++ "\u0304")).text =
        (diaeretic.spell ⟨"in", 1, 0⟩
          ("ṩ" ++ String.ofList ['ü', '\u0301'] ++ "\u0304")).text := by
  have hd : Decomposition.of? 'ǘ' = some (.accented 'ü' '\u0301') := by decide +kernel
  have htag : accentTag? '\u0301' = some '\x27' := by decide
  refine ⟨rfl, hd, by decide +kernel, ?_⟩
  exact text_spell_composed diaeretic rfl hd htag (by decide) (by decide +kernel)
    (by decide +kernel) (Or.inr ⟨by decide +kernel, by decide +kernel⟩) _ _ _ _

end TexGlyph.Speller
