import TexGlyph.Proofs.Spelling.Idempotence
import TexGlyph.Proofs.Spelling.Renaming

/-!
# Accent modes

The accent mode is only asked for the name of an accent command.  So two spellers that differ in
nothing but the mode go through the same rules for every character, and what they do with it is alike
(`Speller.alike_actions`).  A spelling in any mode is therefore the spelling in the mode of running
text with its accent commands renamed (`Speller.text_spell_withMode`).

For this every accent command in a spelling has to come from the rules for accents.  Commands of the
user and of the lexicon have a blank after them, and a bare backslash only comes from its small form,
where a closing brace follows (`Speller.rendered_small_escape`).  The variant form of a command is
only asked for letters that are spelled without an accent
(`Decomposition.of?_eq_none_of_greek`).
-/

namespace TexGlyph.Speller

/-- The speller with the same preferences but for the accent mode. -/
def withMode (s : Speller) (mode : AccentMode) : Speller :=
  ⟨{ s.preferences with accentMode := mode }, s.lexicon⟩

@[simp] theorem fonts_withMode (s : Speller) (mode : AccentMode) :
    (s.withMode mode).preferences.fonts = s.preferences.fonts := rfl

@[simp] theorem accents_withMode (s : Speller) (mode : AccentMode) :
    (s.withMode mode).preferences.accents = s.preferences.accents := rfl

/-- Whether the commands that a speller takes from the user and from the lexicon have no opening
brace. -/
structure BracelessCommands (s : Speller) : Prop where
  /-- The commands of the user have none. -/
  overrides : ∀ (c : Char) (command : String),
    s.preferences.overrides[c]? = some command → '\x7b' ∉ command.toList
  /-- The canonical commands of the lexicon have none. -/
  symbols : ∀ (c : Char) (command : String),
    s.lexicon.canonical? c = some command → '\x7b' ∉ command.toList

variable {s : Speller}

/-! ### The rules in every mode -/

/-- What the rules 1 to 4 do with a character in every mode. -/
inductive DirectInModes (s : Speller) (c : Char) : Prop where
  /-- The same plain fragment is written. -/
  | plain (remarks : List Note) (fragment : String) (hplain : IsPlainFragment fragment)
      (eq : ∀ mode, (s.withMode mode).direct? c =
        some (remarks.map .note ++ [.write fragment]))
  /-- The accent command of the same tag is put over the fragment before. -/
  | overlay (tag : Char) (htag : accentTag? c = some tag)
      (eq : ∀ mode, (s.withMode mode).direct? c = some [.accent c (mode.command tag)])
  /-- The character is passed over. -/
  | passed (eq : ∀ mode, (s.withMode mode).direct? c = none)

theorem all_spellings_unescaped :
    (quoteSpellings ++ dashSpellings).all (fun entry => !entry.2.toList.contains '\\') = true := by
  decide

theorem isPlainFragment_of_ligature? {c : Char} {spelling : String}
    (h : s.ligature? c = some spelling) : IsPlainFragment spelling := by
  have hall := List.all_eq_true.1 all_spellings_unescaped (c, spelling)
    (mem_spellings_of_ligature? h)
  rw [Bool.not_eq_true', ← Bool.not_eq_true, List.contains_iff_mem] at hall
  exact .text hall

/-- **The rules 1 to 4 do the same in every mode**, but for the name of an accent command. -/
theorem directInModes (hs : s.BracelessCommands) (c : Char) : s.DirectInModes c := by
  -- No rule asks for the mode before it applies, so what is found for `s` is found in every mode.
  cases hligature : s.ligature? c with
  | some spelling =>
    exact .plain [] spelling (isPlainFragment_of_ligature? hligature) fun mode =>
      (s.withMode mode).direct?_of_ligature hligature
  | none =>
  cases hcommand : s.preferences.overrides[c]? with
  | some command =>
    exact .plain [.overridden c command] _ (.command (hs.overrides c command hcommand)) fun mode =>
      (s.withMode mode).direct?_of_override hligature hcommand
  | none =>
  cases hsymbol : if s.preferences.preferMath then s.symbol? c else none with
  | some command =>
    have hcanonical : s.lexicon.canonical? c = some command := by
      rw [Option.ite_none_right_eq_some, symbol?, Option.ite_none_right_eq_some] at hsymbol
      exact hsymbol.2.2
    exact .plain [.symbol c command] _ (.command (hs.symbols c command hcanonical)) fun mode =>
      (s.withMode mode).direct?_of_preferred hligature hcommand hsymbol
  | none =>
  cases hmark : s.mark? c with
  | some tag =>
    have htag : accentTag? c = some tag := by
      rw [mark?, Option.ite_none_right_eq_some] at hmark
      exact hmark.2
    exact .overlay tag htag fun mode =>
      (s.withMode mode).direct?_of_mark hligature hcommand hsymbol hmark
  | none =>
    exact .passed fun mode => (s.withMode mode).direct?_eq_none hligature hcommand hsymbol hmark

theorem isPlainFragment_charFragment {c : Char} (hc : c ≠ '\\') :
    IsPlainFragment (charFragment c) := by
  refine .text ?_
  rw [charFragment, String.toList_ofList, List.mem_singleton]
  exact Ne.symm hc

/-- What the rules after the decomposition write is plain, if the character is no backslash. -/
theorem exists_isPlainFragment_fallback (hs : s.BracelessCommands) {c : Char} (hc : c ≠ '\\') :
    ∃ (remarks : List Note) (fragment : String), IsPlainFragment fragment ∧
      s.fallback c = remarks.map .note ++ [.write fragment] := by
  cases s.fallback_cases c with
  | greek name hname eq =>
    refine ⟨[], _, .command ?_, eq⟩
    rw [String.toList_append, List.mem_append, not_or]
    exact ⟨by decide, fun hmem => absurd (isWordCode_of_mem_greekCommand hname hmem) (by decide)⟩
  | symbol command hcommand _ eq =>
    exact ⟨[.symbol c command], _, .command (hs.symbols c command hcommand), eq⟩
  | unconvertible _ eq =>
    exact ⟨[.unconvertible c], _, isPlainFragment_charFragment hc, eq⟩
  | ascii _ eq => exact ⟨[], _, isPlainFragment_charFragment hc, eq⟩

theorem alike_fallback (hs : s.BracelessCommands) (mode : AccentMode) {c : Char} (hc : c ≠ '\\') :
    List.Forall₂ (Action.Alike mode) (s.fallback c) (s.fallback c) := by
  obtain ⟨remarks, fragment, hplain, heq⟩ := exists_isPlainFragment_fallback hs hc
  rw [heq]
  exact Action.alike_write remarks (hplain.renames mode)

/-- A character that the rules 1 to 4 pass over is passed over in every mode. -/
theorem direct?_withMode_eq_none (hs : s.BracelessCommands) {c : Char} (h : s.direct? c = none)
    (mode : AccentMode) : (s.withMode mode).direct? c = none := by
  have hself : (s.withMode s.preferences.accentMode).direct? c = none := h
  cases directInModes hs c with
  | plain _ _ _ eq =>
    rw [eq] at hself
    cases hself
  | overlay _ _ eq =>
    rw [eq] at hself
    cases hself
  | passed eq => exact eq mode

/-! ### The decomposition in every mode -/

/-- A character that needs no decomposition and no mark writes the same plain fragment in every
mode. -/
theorem exists_isPlainFragment_actions (hs : s.BracelessCommands) {c : Char} (hc : c ≠ '\\')
    (hd : Decomposition.of? c = none) (hmark : accentTag? c = none) :
    ∃ (remarks : List Note) (fragment : String), IsPlainFragment fragment ∧
      ∀ mode, (s.withMode mode).actions c = remarks.map .note ++ [.write fragment] := by
  cases directInModes hs c with
  | plain remarks fragment hplain eq =>
    exact ⟨remarks, fragment, hplain, fun mode => (s.withMode mode).actions_of_direct? (eq mode)⟩
  | overlay tag htag _ =>
    rw [hmark] at htag
    cases htag
  | passed eq =>
    obtain ⟨remarks, fragment, hplain, hfallback⟩ := exists_isPlainFragment_fallback hs hc
    exact ⟨remarks, fragment, hplain, fun mode =>
      ((s.withMode mode).actions_of_no_decomposition (eq mode) hd).trans hfallback⟩

/-- The variant of a Greek letter is spelled alike in every mode: the letter itself is written as it
is or by a command, and has no accent that the variant form could hide. -/
theorem alike_variantForm (hs : s.BracelessCommands) (mode : AccentMode) {c first : Char}
    {rest : List Char} (hd : Decomposition.of? c = some (.compat (first :: rest)))
    (hgreek : isGreekBlock first = true) :
    List.Forall₂ (Action.Alike mode)
      (Action.enclose ((s.withMode .text).actions first) variantForm)
      (Action.enclose ((s.withMode mode).actions first) variantForm) := by
  obtain ⟨hnone, hmark⟩ := Decomposition.of?_eq_none_of_greek hd hgreek
  have hfirst : first ≠ '\\' := by
    rintro rfl
    exact absurd hgreek (by decide)
  obtain ⟨remarks, fragment, hplain, heq⟩ := exists_isPlainFragment_actions hs hfirst hnone hmark
  have hapart : (Action.apart (remarks.map .note ++ [.write fragment])).1 = fragment :=
    Action.WritesOnce.apart_eq ⟨remarks, rfl⟩
  rw [heq, heq]
  refine Action.alike_enclose (Action.alike_write remarks (hplain.renames mode)) fun _ => ?_
  rw [hapart]
  exact hplain.variantForm.renames mode

/-- **A decomposition is spelled alike in every mode**, if its characters are. -/
theorem alike_rendered (hs : s.BracelessCommands) (mode : AccentMode) {c : Char}
    {d : Decomposition} (hd : Decomposition.of? c = some d)
    (h : ∀ x ∈ d.scalars, List.Forall₂ (Action.Alike mode) ((s.withMode .text).actions x)
      ((s.withMode mode).actions x)) :
    List.Forall₂ (Action.Alike mode) ((s.withMode .text).rendered c d)
      ((s.withMode mode).rendered c d) := by
  have hc : c ≠ '\\' := by
    rintro rfl
    exact absurd (isForeign_of_decomposition hd) (by decide)
  have hfallback := alike_fallback hs mode hc
  have hkept : Renames mode.names (charFragment c) (charFragment c) :=
    (isPlainFragment_charFragment hc).renames mode
  -- What is put around the characters is the same in every mode, but for accent commands.
  cases d with
  | font base =>
    rw [rendered, rendered, decomposed, decomposed]
    refine Action.alike_enclose (h base (List.mem_singleton_self base)) fun htext => ?_
    rw [fonts_withMode, fonts_withMode]
    by_cases hfonts : s.preferences.fonts = true
    · rw [if_pos hfonts, if_pos hfonts]
      exact htext.wrapFont mode _
    · rw [if_neg hfonts, if_neg hfonts]
      exact htext
  | small base =>
    rw [rendered, rendered, decomposed, decomposed]
    exact Action.alike_enclose (h base (List.mem_singleton_self base)) (Renames.small mode)
  | compat scalars =>
    cases scalars with
    | nil => exact .cons (.note _) hfallback
    | cons first rest =>
      rw [rendered, rendered, decomposed, decomposed]
      split
      · rename_i hgreek
        exact alike_variantForm hs mode hd hgreek
      · split
        · simp only [List.flatMap_subtype, List.unattach_attach]
          exact Action.alike_flatMap h
        · exact .cons (.note _) hfallback
  | script kind base =>
    have happlied : ∀ command : String, isInert (command ++ "\x7b").toList = true →
        List.Forall₂ (Action.Alike mode)
          (Action.enclose ((s.withMode .text).actions base) (applied command))
          (Action.enclose ((s.withMode mode).actions base) (applied command)) :=
      fun command hcommand =>
        Action.alike_enclose (h base (List.mem_singleton_self base)) fun htext =>
          htext.applied mode.lookup_names_blank hcommand
    cases kind
    · exact happlied "^" (by decide)
    · exact happlied "_" (by decide)
  | fraction numerator denominator =>
    rw [rendered, rendered, decomposed, decomposed]
    simp only [List.flatMap_subtype, List.unattach_attach]
    exact Action.alike_enclosePair
      (Action.alike_flatMap fun x hx => h x (List.mem_append_left _ hx))
      (Action.alike_flatMap fun x hx => h x (List.mem_append_right _ hx))
  | accented base mark =>
    rw [rendered, rendered, decomposed, decomposed]
    cases htag : accentTag? mark with
    | none => exact .cons (.note _) hfallback
    | some tag =>
      dsimp only
      rw [accents_withMode, accents_withMode]
      by_cases haccents : s.preferences.accents = true
      · rw [if_pos haccents, if_pos haccents]
        exact Action.alike_enclose (h base List.mem_cons_self)
          (Renames.accentCommand mode htag)
      · rw [if_neg haccents, if_neg haccents]
        exact .cons (.write hkept) .nil
  | canonical scalars =>
    rw [rendered, rendered, decomposed, decomposed]
    simp only [List.flatMap_subtype, List.unattach_attach]
    exact Action.alike_enclose (Action.alike_flatMap h) id
  | unsupported tag => exact .cons (.note _) (.cons (.write hkept) .nil)

/-- The small form of a backslash that the rules 1 to 4 pass over is the same in every mode: a closing
brace comes after the backslash, and no tag. -/
theorem rendered_small_escape (hs : s.BracelessCommands) (hdirect : s.direct? '\\' = none)
    (mode : AccentMode) (c : Char) :
    (s.withMode mode).rendered c (.small '\\') =
      [.write ("\x7b" ++ applied "\\scriptsize" "\\" ++ "\x7d")] := by
  rw [rendered, decomposed, actions_of_ascii rfl (direct?_withMode_eq_none hs hdirect mode)]
  rfl

/-- **The actions for a character are alike in every mode**, unless it is a bare backslash. -/
theorem alike_actions (hs : s.BracelessCommands) (mode : AccentMode) {c : Char}
    (hc : c = '\\' → s.direct? c ≠ none) :
    List.Forall₂ (Action.Alike mode) ((s.withMode .text).actions c)
      ((s.withMode mode).actions c) := by
  induction c using Decomposition.scalarInduction with
  | step c ih =>
  cases directInModes hs c with
  | plain remarks fragment hplain eq =>
    rw [actions_of_direct? _ (eq .text), actions_of_direct? _ (eq mode)]
    exact Action.alike_write remarks (hplain.renames mode)
  | overlay tag htag eq =>
    rw [actions_of_direct? _ (eq .text), actions_of_direct? _ (eq mode)]
    exact .cons (.accent c htag) .nil
  | passed eq =>
    cases hd : Decomposition.of? c with
    | none =>
      have hne : c ≠ '\\' := fun heq => hc heq (eq s.preferences.accentMode)
      rw [actions_of_no_decomposition _ (eq .text) hd, actions_of_no_decomposition _ (eq mode) hd]
      exact alike_fallback hs mode hne
    | some d =>
      rw [actions_of_decomposition _ (eq .text) hd, actions_of_decomposition _ (eq mode) hd]
      refine .cons (.note _) ?_
      -- Only a small form is taken apart into a backslash, and then there is nothing else in it.
      by_cases hbare : '\\' ∈ d.scalars ∧ s.direct? '\\' = none
      · obtain rfl := Decomposition.eq_small_of_isMarkup hd hbare.1 rfl
        rw [rendered_small_escape hs hbare.2, rendered_small_escape hs hbare.2]
        exact .cons (.write (.of_isInert mode.lookup_names_blank _ (by decide))) .nil
      · refine alike_rendered hs mode hd fun x hx => ih d hd x hx ?_
        rintro rfl hdirect
        exact hbare ⟨hx, hdirect⟩

/-! ### Texts -/

/-- The spellings of a text in two modes are renamed into each other and have the same remarks. -/
theorem renames_spellFrom (hs : s.BracelessCommands) (mode : AccentMode) {cs : List Char}
    (hcs : '\\' ∉ cs) (p : Position) {stack stack' : List String}
    (hstack : List.Forall₂ (Renames mode.names) stack stack') :
    List.Forall₂ (Renames mode.names) ((s.withMode .text).spellFrom p cs stack).1
        ((s.withMode mode).spellFrom p cs stack').1 ∧
      ((s.withMode .text).spellFrom p cs stack).2 = ((s.withMode mode).spellFrom p cs stack').2 := by
  induction cs generalizing p stack stack' with
  | nil => exact ⟨hstack, rfl⟩
  | cons c cs ih =>
    rw [List.mem_cons, not_or] at hcs
    have hactions := alike_actions hs mode (c := c) fun heq => absurd heq.symm hcs.1
    obtain ⟨hfragments, hremarks⟩ := Action.alike_perform hactions hstack
    obtain ⟨hrest, hlater⟩ := ih hcs.2 (p.advance 1) hfragments
    exact ⟨hrest, congrArg₂ (fun remarks later => remarks.map (⟨p.advance 1, ·⟩) ++ later)
      hremarks hlater⟩

/-- **The spelling in a mode is the spelling in running text with its accent commands renamed.** -/
theorem text_spell_withMode (hs : s.BracelessCommands) (mode : AccentMode) (p : Position)
    {text : String} (htext : '\\' ∉ text.toList) :
    ((s.withMode mode).spell p text).text =
      String.ofList (renameAccents mode.names ((s.withMode .text).spell p text).text.toList) := by
  have hrenames := Action.renames_textOf (renames_spellFrom hs mode htext p .nil).1
  show Action.textOf _ = String.ofList (renameAccents _ (Action.textOf _).toList)
  rw [hrenames.eq, String.ofList_toList]

/-- The accent commands of a tag are renamed in every mode that has a name for it, and stay in the
others. -/
theorem accentUses_text_spell (hs : s.BracelessCommands) (mode : AccentMode) (p : Position)
    {text : String} (htext : '\\' ∉ text.toList) {tag : Char} (htag : tag ≠ '\\') :
    accentUses tag ((s.withMode mode).spell p text).text.toList =
      if (mode.names.lookup tag).isSome then 0
      else accentUses tag ((s.withMode .text).spell p text).text.toList := by
  rw [text_spell_withMode hs mode p htext, String.toList_ofList,
    accentUses_renameAccents (areAccentNames_names mode) htag]

/-- **Accent modes differ in the names of accent commands and in nothing else.**  The automatic mode
spells a text as running text does.  The mode of formulas spells it as running text does, but for the
names that formulas have for some of the tags; so none of these tags is left in the spelling, and the
commands of all other tags are as frequent in every mode.  The remarks are the same as well. -/
theorem text_spell_accentModes (s : Speller) (hs : s.BracelessCommands) (p : Position)
    (text : String) (htext : '\\' ∉ text.toList) :
    ((s.withMode .auto).spell p text).text = ((s.withMode .text).spell p text).text ∧
      ((s.withMode .math).spell p text).text =
        String.ofList (renameAccents mathAccents ((s.withMode .text).spell p text).text.toList) ∧
      (∀ tag name, (tag, name) ∈ mathAccents →
        ¬ ['\\', tag, '\x7b'] <:+: ((s.withMode .math).spell p text).text.toList) ∧
      (∀ mark tag, accentTag? mark = some tag → mathAccents.lookup tag = none → ∀ mode,
        accentUses tag ((s.withMode mode).spell p text).text.toList =
          accentUses tag ((s.withMode .text).spell p text).text.toList) ∧
      ∀ mode, ((s.withMode mode).spell p text).notes = ((s.withMode .text).spell p text).notes := by
  refine ⟨?auto, text_spell_withMode hs .math p htext, ?renamed, ?unnamed, ?notes⟩
  case auto =>
    rw [text_spell_withMode hs .auto p htext, AccentMode.names, renameAccents_nil,
      String.ofList_toList]
  case renamed =>
    intro tag name hmem
    obtain ⟨word, hword⟩ := exists_lookup hmem
    obtain ⟨_, htag, _⟩ := exists_of_lookup (areAccentNames_names .math) hword
    -- A tag that has a name in formulas is left in no command, so it is not counted.
    apply not_infix_of_accentUses
    rw [accentUses_text_spell hs .math p htext htag, AccentMode.names, hword]
    rfl
  case unnamed =>
    intro mark tag htag hnone mode
    have hlookup : mode.names.lookup tag = none := by
      cases mode with
      | text => rfl
      | math => exact hnone
      | auto => rfl
    rw [accentUses_text_spell hs mode p htext (accentTag?_ne_escape htag), hlookup]
    rfl
  case notes =>
    intro mode
    exact (renames_spellFrom hs mode htext p .nil).2.symm

theorem bracelessCommands_intersecting : intersecting.BracelessCommands where
  overrides c command h := by
    rw [eq_of_getElem?_singleton h]
    decide
  symbols c command h := by
    rw [Lexicon.eq_of_canonical?_singleton rfl h]
    decide

/-- Marks over a letter with an accent, over a symbol and over a command of the user, a variant of a
Greek letter, and the small form of a backslash. -/
theorem text_spell_accentModes_intersecting :
    intersecting.BracelessCommands ∧ '\\' ∉ "ḉ∩\u0301ǘϑ﹨é\u0302".toList ∧
      ((intersecting.withMode .text).spell ⟨"in", 1, 0⟩ "ḉ∩\u0301ǘϑ﹨é\u0302").text =
        "\\'\x7b\\c\x7bc\x7d\x7d\\'\x7b\\cap \x7d\\'\x7b\\\x22\x7bu\x7d\x7d\\vartheta " ++
          "\x7b\\scriptsize\x7b\\\x7d\x7d\\^\x7b\\eacute \x7d" ∧
      ((intersecting.withMode .math).spell ⟨"in", 1, 0⟩ "ḉ∩\u0301ǘϑ﹨é\u0302").text =
        "\\acute\x7b\\c\x7bc\x7d\x7d\\acute\x7b\\cap \x7d\\acute\x7b\\ddot\x7bu\x7d\x7d" ++
          "\\vartheta \x7b\\scriptsize\x7b\\\x7d\x7d\\hat\x7b\\eacute \x7d" ∧
      ((intersecting.withMode .auto).spell ⟨"in", 1, 0⟩ "ḉ∩\u0301ǘϑ﹨é\u0302").text =
        ((intersecting.withMode .text).spell ⟨"in", 1, 0⟩ "ḉ∩\u0301ǘϑ﹨é\u0302").text := by
  have htext : '\\' ∉ "ḉ∩\u0301ǘϑ﹨é\u0302".toList := by decide
  have hmodes := text_spell_accentModes intersecting bracelessCommands_intersecting
    ⟨"in", 1, 0⟩ _ htext
  have hrunning : ((intersecting.withMode .text).spell ⟨"in", 1, 0⟩ "ḉ∩\u0301ǘϑ﹨é\u0302").text =
      "\\'\x7b\\c\x7bc\x7d\x7d\\'\x7b\\cap \x7d\\'\x7b\\\x22\x7bu\x7d\x7d\\vartheta " ++
        "\x7b\\scriptsize\x7b\\\x7d\x7d\\^\x7b\\eacute \x7d" := by
    decide +kernel
  refine ⟨bracelessCommands_intersecting, htext, hrunning, ?_, hmodes.1⟩
  -- The spelling for formulas is found by renaming, not by spelling again.
  rw [hmodes.2.1, hrunning]
  decide +kernel

end TexGlyph.Speller
