import TexGlyph.Lexicon.Standard
import TexGlyph.Proofs.Latex.Markup
import TexGlyph.Proofs.Lexicon.Meaning
import TexGlyph.Proofs.Lexicon.Table

/-!
# Markup and the standard lexicon

The commands of the standard lexicon stand for plain characters, none of which is a letter that a
control word would go on with.  There are four exceptions: the dollar sign, the percent sign, the
ampersand and the backslash have commands, too (`markupCommands`), and these characters are put in
as they are.  The one part is a sweep over the preset, the bundled records and the aliases
(`isExpected_of_listed_standard`), the other is read off the first records, since what is canonical
once stays canonical (`head?_meanings_standard`).  So the markup around the replacements of a source
is kept exactly if none of the four commands is replaced in it (`markup_convert_standard`).
-/

namespace TexGlyph.Lexicon

open Category Substitution Token

/-- The commands of the standard lexicon for characters that are not plain text. -/
def markupCommands : List (String × Char) :=
  [("\\mathdollar", '$'), ("\\mathpercent", '%'), ("\\mathampersand", '&'), ("\\backslash", '\\')]

/-- Whether a command can have a meaning in the standard lexicon: a plain character that is no
letter, or the character of one of the four commands. -/
def isExpected (command : String) (c : Char) : Bool :=
  !isLetter c && (isText c || markupCommands.contains (command, c))

/-! ### Sweeps -/

theorem all_usual_expected :
    (Preset.usual.pairs ++ Preset.usual.greek).all (fun entry => isExpected entry.1 entry.2) =
      true := by
  decide +kernel

-- The names in the description of a record are only read where the character is not plain.
theorem all_records_expected :
    Definitions.bundledSymbols.records.all (fun r => !isLetter r.codepoint && (isText r.codepoint ||
      (r.command :: r.infoAliases).all fun command =>
        markupCommands.contains (command, r.codepoint))) = true := by
  decide +kernel

theorem all_aliases_unmarked :
    Definitions.bundledAliases.aliases.all (fun a =>
      !(markupCommands.map Prod.fst).contains a.target) = true := by
  decide +kernel

theorem all_letters_unmarked :
    Preset.usual.greek.all (fun entry => !(markupCommands.map Prod.fst).contains entry.1) =
      true := by
  decide +kernel

/-- The first records, up to that of the backslash, give the four commands their characters. -/
theorem all_markupCommands_first :
    let before := (LexiconStep.ofSources [.bundledSymbols, .bundledAliases]).take 13
    markupCommands.all (fun entry =>
      ((ofPreset .usual).steps .usual before).meanings[entry.1]?.bind List.head? ==
        some entry.2) = true := by
  decide +kernel

/-! ### Meanings -/

theorem isExpected_iff {command : String} {c : Char} :
    isExpected command c = true ↔
      isLetter c = false ∧ (isText c = true ∨ (command, c) ∈ markupCommands) := by
  simp [isExpected]

/-- A name that may have a character that is not plain is one of the four commands. -/
theorem isExpected_of_record {r : SymbolRecord} (hr : r ∈ Definitions.bundledSymbols.records)
    {command : String} (hcommand : command ∈ r.command :: r.infoAliases) :
    isExpected command r.codepoint = true := by
  have hall := List.all_eq_true.1 all_records_expected r hr
  rw [Bool.and_eq_true, Bool.not_eq_true', Bool.or_eq_true] at hall
  obtain ⟨hletter, htext | hnames⟩ := hall
  · exact isExpected_iff.2 ⟨hletter, Or.inl htext⟩
  · have hcontains := List.all_eq_true.1 hnames command hcommand
    exact isExpected_iff.2 ⟨hletter, Or.inr (List.contains_iff_mem.1 hcontains)⟩

/-- An alias hands on plain characters only. -/
theorem isExpected_of_alias {a : Alias} (ha : a ∈ Definitions.bundledAliases.aliases) {c : Char}
    (h : isExpected a.target c = true) : isExpected a.name c = true := by
  obtain ⟨hletter, htext | hmem⟩ := isExpected_iff.1 h
  · exact isExpected_iff.2 ⟨hletter, Or.inl htext⟩
  · have hunmarked := List.all_eq_true.1 all_aliases_unmarked a ha
    rw [List.contains_iff_mem.2 (List.mem_map_of_mem (f := Prod.fst) hmem)] at hunmarked
    cases hunmarked

/-- **What a command means in the standard lexicon is expected of it.** -/
theorem isExpected_of_listed_standard {command : String} {c : Char}
    (h : Listed standard.meanings command c) : isExpected command c = true := by
  refine meaningInduction (P := fun command c => isExpected command c = true) ?pair ?record
    ?synonym h
  case pair =>
    exact fun entry hentry => List.all_eq_true.1 all_usual_expected entry
      (List.mem_append_left _ hentry)
  case record =>
    intro d hd r hr command hcommand
    -- The bundled records are one source and the bundled aliases the other.
    rcases List.mem_cons.1 hd with rfl | hd
    · exact isExpected_of_record hr hcommand
    · obtain rfl := List.mem_singleton.1 hd
      cases hr
  case synonym =>
    intro d hd a ha c hc
    rcases List.mem_cons.1 hd with rfl | hd
    · cases ha
    · obtain rfl := List.mem_singleton.1 hd
      exact isExpected_of_alias ha hc

/-- The four commands mean their characters first of all. -/
theorem head?_meanings_standard (entry : String × Char) (h : entry ∈ markupCommands) :
    standard.meanings[entry.1]?.bind List.head? = some entry.2 := by
  have hfirsts := keepsFirsts_ofSteps .usual
    ((LexiconStep.ofSources [.bundledSymbols, .bundledAliases]).take 13)
    ((LexiconStep.ofSources [.bundledSymbols, .bundledAliases]).drop 13)
  rw [List.take_append_drop] at hfirsts
  exact hfirsts.meanings entry.1 entry.2
    (beq_iff_eq.1 (List.all_eq_true.1 all_markupCommands_first entry h))

/-! ### Replacements -/

/-- The substitution of the standard lexicon, for symbols and for Greek letters. -/
def standardSubstitution : Substitution := .ofLexicon standard true true

/-- A command is replaced by one character, which is expected of it. -/
theorem exists_of_getElem?_standardSubstitution {command text : String}
    (h : standardSubstitution.replacements[command]? = some text) :
    ∃ c, text = String.ofList [c] ∧ isExpected command c = true ∧
      ∀ entry ∈ markupCommands, entry.1 = command → entry.2 = c := by
  rw [standardSubstitution, getElem?_replacements_ofLexicon_greek, Option.map_eq_some_iff] at h
  obtain ⟨c, hc, rfl⟩ := h
  refine ⟨c, rfl, ?_⟩
  -- The letter of a command comes before its other meanings.
  cases hletter : standard.greek[command]?.bind List.head? with
  | some letter =>
    rw [hletter, Option.some_or] at hc
    obtain rfl : letter = c := Option.some.inj hc
    have hmem := mem_greek_of_build hletter
    refine ⟨List.all_eq_true.1 all_usual_expected _ (List.mem_append_right _ hmem), ?_⟩
    -- No letter has one of the four commands.
    rintro entry hentry rfl
    have hunmarked := List.all_eq_true.1 all_letters_unmarked _ hmem
    rw [List.contains_iff_mem.2 (List.mem_map_of_mem (f := Prod.fst) hentry)] at hunmarked
    cases hunmarked
  | none =>
    rw [hletter, Option.none_or] at hc
    constructor
    · obtain ⟨meanings, hmeanings, hhead⟩ := Option.bind_eq_some_iff.1 hc
      exact isExpected_of_listed_standard
        ((listed_of_getElem? hmeanings).2 (List.mem_of_mem_head? hhead))
    · rintro entry hentry rfl
      rw [head?_meanings_standard entry hentry] at hc
      exact Option.some.inj hc

theorem isText_of_markupCommands {entry : String × Char} (h : entry ∈ markupCommands) :
    isText entry.2 = false := by
  have hall : markupCommands.all (fun entry => !isText entry.2) = true := by decide
  simpa using List.all_eq_true.1 hall entry h

/-- **When the markup around replacements is kept**: with the standard lexicon, the markup of what
comes out is the markup of the source that is not replaced, in order, exactly if none of the
commands for a dollar sign, a percent sign, an ampersand or a backslash is replaced in the source.
-/
theorem markup_convert_standard (source : String) :
    markup ((Substitution.ofLexicon standard true true).convert source).toList =
        (Substitution.ofLexicon standard true true).keptMarkup source.toList ↔
      ∀ r ∈ (Substitution.ofLexicon standard true true).log source,
        r.key ∉ ["\\mathdollar", "\\mathpercent", "\\mathampersand", "\\backslash"] := by
  have hmeant : ∀ r ∈ standardSubstitution.used source.toList, ∃ c,
      r.text = String.ofList [c] ∧ isExpected r.key c = true ∧
        ∀ entry ∈ markupCommands, entry.1 = r.key → entry.2 = c :=
    fun r hr => exists_of_getElem?_standardSubstitution (getElem?_of_mem_used _ hr)
  have hapart : ∀ r ∈ standardSubstitution.used source.toList, BeginsApart r.text := by
    intro r hr
    obtain ⟨c, htext, hexpected, _⟩ := hmeant r hr
    rw [htext]
    exact ⟨c, by rw [String.toList_ofList]; rfl, (isExpected_iff.1 hexpected).1⟩
  -- One of the four commands is put in as its own character, which is not plain; any other
  -- expected character is.
  have hkey : ∀ r ∈ standardSubstitution.used source.toList,
      (∀ c ∈ r.text.toList, isText c = true) ↔ r.key ∉ markupCommands.map Prod.fst := by
    intro r hr
    obtain ⟨c, htext, hexpected, hmarked⟩ := hmeant r hr
    rw [htext, String.toList_ofList, List.forall_mem_singleton]
    constructor
    · intro hc hmem
      obtain ⟨entry, hentry, hname⟩ := List.mem_map.1 hmem
      have hbare := isText_of_markupCommands hentry
      rw [hmarked entry hentry hname, hc] at hbare
      cases hbare
    · intro hnot
      rcases (isExpected_iff.1 hexpected).2 with hc | hmem
      · exact hc
      · exact absurd (List.mem_map_of_mem (f := Prod.fst) hmem) hnot
  show markup (standardSubstitution.convert source).toList =
    standardSubstitution.keptMarkup source.toList ↔
      ∀ r ∈ standardSubstitution.used source.toList, r.key ∉ markupCommands.map Prod.fst
  rw [toList_convert, markup_replaced_iff hapart]
  exact forall₂_congr hkey

/-- A percent sign that is put in for its command takes the rest of its line with it: the braces of
the source are no more markup, and there is a comment that the source does not have. -/
theorem convert_standard_percent :
    (Substitution.ofLexicon standard true true).convert "50\\mathpercent \x7bof\x7d it" =
        "50% \x7bof\x7d it" ∧
      (Substitution.ofLexicon standard true true).keptMarkup
          "50\\mathpercent \x7bof\x7d it".toList = [.beginGroup, .endGroup] ∧
      markup ((Substitution.ofLexicon standard true true).convert
          "50\\mathpercent \x7bof\x7d it").toList = [.comment " \x7bof\x7d it"] := by
  have hreplacement : standardSubstitution.replacements["\\mathpercent"]? = some "%" := by
    have hletter : Preset.usual.letter? "\\mathpercent" = none := by decide +kernel
    have hgreek : standard.greek["\\mathpercent"]? = none := by
      rw [standard, greek_build, getElem?_greek_ofPreset, hletter]
      rfl
    have hmeaning := head?_meanings_standard ("\\mathpercent", '%') (by decide)
    rw [standardSubstitution, getElem?_replacements_ofLexicon_greek, hgreek, hmeaning]
    rfl
  have hconverted : standardSubstitution.convert "50\\mathpercent \x7bof\x7d it" =
      "50% \x7bof\x7d it" := by
    have hcommand : IsControlWord "\\mathpercent" :=
      ⟨"mathpercent".toList, by decide, List.all_eq_true.1 (by decide), by decide⟩
    have hscan : scan " \x7bof\x7d it".toList =
        [text " ", beginGroup, text "of", endGroup, text " it"] := by
      decide +kernel
    have hrest : standardSubstitution.used " \x7bof\x7d it".toList = [] := by
      rw [used, hscan]
      rfl
    have hblank : ∀ c ∈ " \x7bof\x7d it".toList.head?, isLetter c = false := by
      rintro c ⟨⟩
      decide
    -- The standard lexicon is too large to be evaluated, so the command is cut out of the source.
    have hsource : "50\\mathpercent \x7bof\x7d it".toList =
        "50".toList ++ ("\\mathpercent".toList ++ " \x7bof\x7d it".toList) := by
      decide
    rw [← String.toList_inj, toList_convert, hsource,
      replaced_append_of_isText (List.all_eq_true.1 (by decide)),
      replaced_word_append hcommand hreplacement _ hblank, replaced_of_used_eq_nil hrest]
    decide
  refine ⟨hconverted, ?_, ?_⟩
  · have hscan : scan "50\\mathpercent \x7bof\x7d it".toList =
        [text "50", control "mathpercent", text " ", beginGroup, text "of", endGroup,
          text " it"] := by
      decide +kernel
    have hused : standardSubstitution.replacement? (control "mathpercent") =
        some ⟨"\\mathpercent", "%"⟩ := by
      rw [replacement?, key?, Option.bind_some]
      exact congrArg (Option.map _) hreplacement
    show standardSubstitution.keptMarkup _ = _
    rw [keptMarkup, hscan]
    simp only [List.filter_cons, List.filter_nil, hused]
    rfl
  · show markup (standardSubstitution.convert _).toList = _
    rw [hconverted]
    decide +kernel

end TexGlyph.Lexicon
