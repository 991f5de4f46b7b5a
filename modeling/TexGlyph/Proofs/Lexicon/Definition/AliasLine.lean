import TexGlyph.Lexicon.Definition.Basic
import TexGlyph.Proofs.Lexicon.Definition.AliasPlace

/-!
# Lines with aliases

A `CR` at the end of a line makes no difference to its aliases, so the aliases of a file are those of
its lines (`Alias.aliases_ofText_intercalate`).  On a line there can be anything between the aliases
that has no keyword in it (`AliasLine`), and what is read are the aliases that are written, the
braced ones first (`AliasLine.ofLine_text`).

The main result says this for files, and of every line whatsoever that the aliases that are read are
those of all of its places, each place once (`Definitions.aliases_read_once`).
-/

namespace TexGlyph

namespace Alias

/-! ### The end of a line -/

/-- A `CR` at the end of a text makes no alias in front of it. -/
theorem read?_append_return_eq_none {form : AliasForm} {cs : List Char} (hline : '\n' ∉ cs)
    (h : read? form cs = none) : read? form (cs ++ ['\r']) = none := by
  cases hread : read? form (cs ++ ['\r']) with
  | none => rfl
  | some found =>
    have hreturn : '\n' ∉ cs ++ ['\r'] := by simp [hline]
    obtain ⟨w, rfl, -, hcs⟩ := exists_of_read? hreturn hread
    rcases List.eq_nil_or_concat' found.2 with hnil | ⟨rest, c, hconcat⟩
    · -- The alias would end with the `CR`, but it ends with a brace.
      have hlast := congrArg List.getLast? hcs
      rw [hnil, List.append_nil, List.getLast?_concat, w.getLast?_text] at hlast
      exact absurd (Option.some.inj hlast) (by decide)
    · rw [hconcat, ← List.append_assoc] at hcs
      obtain ⟨rfl, -⟩ := List.append_inj' hcs rfl
      rw [read?_text_append] at h
      cases h

/-- A `CR` at the end of a line makes no difference to its aliases. -/
theorem all_append_return {form : AliasForm} {line : List Char} (hline : '\n' ∉ line) :
    all form (line ++ ['\r']) = all form line := by
  fun_induction all form line with
  | case1 =>
    have hbegins : BeginsNone form ['\r'] [] := .of_not_mem form (by decide) []
    exact (all_append hbegins).trans (by rw [all])
  | case2 c cs a rest hread hlt ih =>
    obtain ⟨w, rfl, rfl, hcs⟩ := exists_of_read? hline hread
    rw [hcs, List.mem_append, not_or] at hline
    rw [hcs, List.append_assoc, all_of_read? (read?_text_append w _), ih hline.2]
  | case3 c cs hread ih =>
    have hnone := read?_append_return_eq_none hline hread
    rw [← ih fun hmem => hline (List.mem_cons_of_mem c hmem)]
    exact all_cons_of_read?_eq_none hnone

/-- The aliases of a line do not depend on how it ends. -/
theorem ofLine_withoutBreak {line : List Char} (hline : '\n' ∉ line) :
    ofLine (withoutBreak (line ++ ['\n'])) = ofLine line := by
  rcases withoutBreak_append_lineFeed line with heq | heq
  · rw [heq]
  · have hfront : '\n' ∉ withoutBreak (line ++ ['\n']) := by
      rw [heq, List.mem_append, not_or] at hline
      exact hline.1
    conv_rhs => rw [heq]
    rw [ofLine, ofLine, all_append_return hfront, all_append_return hfront]

/-- **The aliases of a file are those of its lines**, in order. -/
theorem aliases_ofText_intercalate (name : String) {ls : List (List Char)}
    (hls : ∀ line ∈ ls, '\n' ∉ line) :
    (Definitions.ofText name (String.ofList (['\n'].intercalate ls))).aliases =
      ls.flatMap ofLine := by
  show (lines (String.ofList _).toList).flatMap ofLine = _
  rw [String.toList_ofList]
  refine flatMap_lines_intercalate ?_ hls fun line hline => ofLine_withoutBreak (hls line hline)
  rw [ofLine, all, all]
  rfl

/-! ### Lines as they are written -/

/-- A text without the keyword is passed over in front of what begins with a backslash. -/
theorem BeginsNone.of_no_keyword (form : AliasForm) {cs rest : List Char} (h : ¬ keyword <:+: cs)
    (hrest : ∀ c ∈ rest.head?, c = '\\') : BeginsNone form cs rest := by
  induction cs with
  | nil => trivial
  | cons c cs ih =>
    refine ⟨?_, ih fun hinfix => h (List.infix_cons hinfix)⟩
    cases hread : read? form (c :: cs ++ rest) with
    | none => rfl
    | some found =>
      obtain ⟨tail, htail, -⟩ := head?_of_read? hread
      have hkeyword : keyword <+: c :: cs ++ rest := ⟨tail, htail.symm⟩
      rcases List.prefix_or_prefix_of_prefix hkeyword (List.prefix_append (c :: cs) rest) with
        hpre | ⟨more, hmore⟩
      · exact absurd hpre.isInfix h
      · -- The keyword would go on with what comes after, but it has no second backslash.
        cases more with
        | nil =>
          rw [List.append_nil] at hmore
          exact absurd (hmore ▸ List.infix_refl _) h
        | cons m more =>
          have hletter : m ∈ ['d', 'e', 'f'] := by
            have htail : cs ++ m :: more = ['d', 'e', 'f'] := (List.cons.inj hmore).2
            rw [← htail]
            exact List.mem_append_right cs List.mem_cons_self
          rw [← hmore, List.prefix_append_right_inj] at hkeyword
          obtain ⟨after, rfl⟩ := hkeyword
          obtain rfl : m = '\\' := hrest m rfl
          exact absurd hletter (by decide)

end Alias

open Alias

namespace WrittenAlias

/-- An alias is written in one line. -/
theorem not_mem_text (w : WrittenAlias) : '\n' ∉ w.text := by
  have hletters : ∀ command : LetterCommand, '\n' ∉ command.letters :=
    fun command h => absurd (command.isAlpha _ h) (by decide)
  have hname : '\n' ∉ w.name.text := by
    cases w.name with
    | braced command gap =>
      simp [WrittenName.text, LetterCommand.text, hletters command, gap.oneLine]
    | bare command => simp [WrittenName.text, LetterCommand.text, hletters command]
  simp [text, keyword, Spacing.group, Spacing.inside, LetterCommand.text, w.gap.oneLine, hname,
    hletters w.target, w.spacing.outside.oneLine, w.spacing.left.oneLine, w.spacing.right.oneLine]

end WrittenAlias

/-- A line that aliases are written into. -/
structure AliasLine where
  /-- What comes first. -/
  leading : List Char
  /-- The aliases, each with what comes after it. -/
  pieces : List (WrittenAlias × List Char)
  /-- Nothing else ends the line. -/
  oneLine : '\n' ∉ leading ∧ ∀ piece ∈ pieces, '\n' ∉ piece.2
  /-- There are no keywords but those of the aliases. -/
  noKeyword : ¬ keyword <:+: leading ∧ ∀ piece ∈ pieces, ¬ keyword <:+: piece.2
  /-- No group comes after an alias for the keyword itself. -/
  noGroup : ∀ piece ∈ pieces, piece.1.name.text = keyword →
    (trimStart piece.2).head? ≠ some '\x7b'

namespace AliasLine

/-- The text of aliases and of what comes after each. -/
def textOf (pieces : List (WrittenAlias × List Char)) : List Char :=
  pieces.flatMap fun piece => piece.1.text ++ piece.2

/-- The line. -/
def text (line : AliasLine) : List Char := line.leading ++ textOf line.pieces

/-- The aliases of a form. -/
def ofForm (form : AliasForm) (pieces : List (WrittenAlias × List Char)) : List Alias :=
  (pieces.filter (·.1.form = form)).map (·.1.toAlias)

/-- Aliases begin with a backslash. -/
theorem head?_textOf (pieces : List (WrittenAlias × List Char)) :
    ∀ c ∈ (textOf pieces).head?, c = '\\' := by
  intro c hc
  cases pieces with
  | nil => cases hc
  | cons piece pieces => exact (Option.some.inj hc).symm

/-- No target comes after an alias if no group does. -/
theorem target?_eq_none {after rest : List Char} (hafter : (trimStart after).head? ≠ some '\x7b')
    (hrest : ∀ c ∈ rest.head?, c = '\\') : target? (trimStart (after ++ rest)) = none := by
  cases hread : target? (trimStart (after ++ rest)) with
  | none => rfl
  | some found =>
    obtain ⟨inside, hinside, -⟩ := Option.bind_eq_some_iff.1 hread
    have hhead := congrArg List.head? (after?_eq_some_iff.1 hinside)
    rw [trimStart, List.dropWhile_append, ← trimStart, ← trimStart] at hhead
    split at hhead
    · -- Only blanks come after the alias, up to the next one.
      cases rest with
      | nil => cases hhead
      | cons c rest =>
        obtain rfl : c = '\\' := hrest c rfl
        exact absurd (Option.some.inj hhead) (by decide)
    · rename_i hempty
      obtain ⟨c, cs, hcs⟩ := List.exists_cons_of_ne_nil fun hnil => hempty (List.isEmpty_iff.2 hnil)
      rw [hcs] at hafter hhead
      exact absurd hhead hafter

/-- The aliases of a form are those that are written in it. -/
theorem all_textOf {form : AliasForm} {pieces : List (WrittenAlias × List Char)}
    (hkeyword : ∀ piece ∈ pieces, ¬ keyword <:+: piece.2)
    (hgroup : ∀ piece ∈ pieces, piece.1.name.text = keyword →
      (trimStart piece.2).head? ≠ some '\x7b') :
    all form (textOf pieces) = ofForm form pieces := by
  induction pieces with
  | nil => exact all.eq_1 form
  | cons piece pieces ih =>
    obtain ⟨w, after⟩ := piece
    obtain ⟨hafter, hkeyword⟩ := List.forall_mem_cons.1 hkeyword
    obtain ⟨hapart, hgroup⟩ := List.forall_mem_cons.1 hgroup
    have hrest := head?_textOf pieces
    -- What comes after the alias has no keyword, so reading goes on at the next alias.
    have hpassed : all form (after ++ textOf pieces) = ofForm form pieces := by
      rw [all_append (.of_no_keyword form hafter hrest), ih hkeyword hgroup]
    have htext : textOf ((w, after) :: pieces) = w.text ++ (after ++ textOf pieces) := by
      rw [textOf, List.flatMap_cons, List.append_assoc]
      rfl
    rw [htext]
    by_cases hform : w.form = form
    · subst hform
      rw [all_of_read? (read?_text_append w _), hpassed, ofForm, ofForm,
        List.filter_cons_of_pos (by simp)]
      rfl
    · have hother := beginsNone_of_ne w hform fun hname => target?_eq_none (hapart hname) hrest
      rw [all_append hother, hpassed, ofForm, ofForm, List.filter_cons_of_neg (by simpa using hform)]

/-- The aliases of a line are those that are written into it, the braced ones first. -/
theorem ofLine_text (line : AliasLine) :
    ofLine line.text = ofForm .braced line.pieces ++ ofForm .bare line.pieces := by
  have hall (form : AliasForm) : all form line.text = ofForm form line.pieces := by
    rw [text, all_append (.of_no_keyword form line.noKeyword.1 (head?_textOf line.pieces)),
      all_textOf line.noKeyword.2 line.noGroup]
  rw [ofLine, hall, hall]

theorem not_mem_text (line : AliasLine) : '\n' ∉ line.text := by
  rw [text, textOf, List.mem_append, not_or]
  refine ⟨line.oneLine.1, fun hmem => ?_⟩
  obtain ⟨piece, hpiece, hin⟩ := List.mem_flatMap.1 hmem
  rcases List.mem_append.1 hin with hin | hin
  · exact piece.1.not_mem_text hin
  · exact line.oneLine.2 piece hpiece hin

/-- One alias is of one form. -/
theorem ofForm_append_of_length_le {pieces : List (WrittenAlias × List Char)}
    (h : pieces.length ≤ 1) :
    ofForm .braced pieces ++ ofForm .bare pieces = pieces.map (·.1.toAlias) := by
  cases pieces with
  | nil => rfl
  | cons piece others =>
    have hothers : others = [] := by simpa using h
    rw [hothers]
    cases hform : piece.1.form <;> simp [ofForm, hform]

end AliasLine

/-- The text of a file, with line feeds between its lines. -/
def aliasText (file : List AliasLine) : String :=
  String.ofList (['\n'].intercalate (file.map AliasLine.text))

theorem aliases_ofText_aliasText (name : String) (file : List AliasLine) :
    (Definitions.ofText name (aliasText file)).aliases =
      file.flatMap fun line =>
        AliasLine.ofForm .braced line.pieces ++ AliasLine.ofForm .bare line.pieces := by
  rw [aliasText, aliases_ofText_intercalate name
    (List.forall_mem_map.2 fun line _ => line.not_mem_text), List.flatMap_map]
  simp only [AliasLine.ofLine_text]

/-- **Aliases are read as they are written, and each once.**  A file with one alias in a line at most
gives back the aliases in order; if a line has several, its braced ones come first.  And on every
line of every file, what is read are the braced aliases that are written at any place, from left to
right, and then the bare ones, and no place is read twice. -/
theorem Definitions.aliases_read_once :
    (∀ (name : String) (file : List AliasLine), (∀ line ∈ file, line.pieces.length ≤ 1) →
      (ofText name (aliasText file)).aliases =
        file.flatMap fun line => line.pieces.map (·.1.toAlias)) ∧
    (∀ (name : String) (file : List AliasLine),
      (ofText name (aliasText file)).aliases =
        file.flatMap fun line =>
          AliasLine.ofForm .braced line.pieces ++ AliasLine.ofForm .bare line.pieces) ∧
    ∀ name text : String,
      (ofText name text).aliases = (lines text.toList).flatMap ofLine ∧
        ∀ line ∈ lines text.toList, ∃ braced bare : List (Nat × Alias),
          AreOccurrences .braced line braced ∧ AreOccurrences .bare line bare ∧
            ofLine line = (braced ++ bare).map Prod.snd ∧
            ((braced ++ bare).map Prod.fst).Nodup := by
  refine ⟨fun name file hfile => ?_, aliases_ofText_aliasText, fun name text => ⟨rfl, ?_⟩⟩
  · rw [aliases_ofText_aliasText]
    exact List.flatMap_congr fun line hline => AliasLine.ofForm_append_of_length_le (hfile line hline)
  · intro line hline
    have honeLine := not_mem_of_mem_lines hline
    refine ⟨occurrences .braced 0 line, occurrences .bare 0 line, areOccurrences .braced honeLine,
      areOccurrences .bare honeLine, ?_, ?_⟩
    · rw [List.map_append, map_snd_occurrences honeLine, map_snd_occurrences honeLine, ofLine]
    · rw [List.map_append, List.nodup_append]
      -- The places of each form increase, and no place is one of both forms.
      exact ⟨(pairwise_occurrences .braced 0 line).imp Nat.ne_of_lt,
        (pairwise_occurrences .bare 0 line).imp Nat.ne_of_lt,
        place_ne_of_mem_occurrences⟩

/-- A bare alias with all blanks that it can have. -/
def lessAlias : WrittenAlias where
  gap := .ofText "\u00A0"
  name := .bare (.ofText "le")
  spacing := ⟨.ofText "\t", .ofText " ", .ofText "\r"⟩
  target := .ofText "leq"

/-- A braced alias without letters. -/
def namelessAlias : WrittenAlias where
  gap := .ofText ""
  name := .braced (.ofText "") (.ofText " ")
  spacing := ⟨.ofText "", .ofText "", .ofText ""⟩
  target := .ofText ""

/-- A line with one alias. -/
def AliasLine.single (leading : List Char) (w : WrittenAlias) (trailing : List Char)
    (oneLine : '\n' ∉ leading ∧ '\n' ∉ trailing)
    (noKeyword : ¬ keyword <:+: leading ∧ ¬ keyword <:+: trailing)
    (noGroup : w.name.text ≠ keyword) : AliasLine where
  leading := leading
  pieces := [(w, trailing)]
  oneLine := ⟨oneLine.1, List.forall_mem_singleton.2 oneLine.2⟩
  noKeyword := ⟨noKeyword.1, List.forall_mem_singleton.2 noKeyword.2⟩
  noGroup := List.forall_mem_singleton.2 fun hname => absurd hname noGroup

/-- The two aliases in a file with `CR LF` after the first line. -/
def blankFile : List AliasLine :=
  [.single ['%', ' '] lessAlias ['%', '\r'] (by decide) (by decide) (by decide),
    .single ['\\', 'd', 'e'] namelessAlias [] (by decide) (by decide) (by decide)]

/-- The text of the file, and what is read from it. -/
theorem Definitions.aliases_read_once_blank :
    aliasText blankFile =
        "% \\def\u00A0\\le\t\x7b \\leq\r\x7d%\r\n\\de\\def\x7b\\ \x7d\x7b\\\x7d" ∧
      (∀ line ∈ blankFile, line.pieces.length ≤ 1) ∧
      (ofText "names" (aliasText blankFile)).aliases = [⟨"\\le", "\\leq"⟩, ⟨"\\", "\\"⟩] := by
  have hfile : ∀ line ∈ blankFile, line.pieces.length ≤ 1 := by
    intro line hline
    simp only [blankFile, List.mem_cons, List.not_mem_nil, or_false] at hline
    rcases hline with rfl | rfl <;> exact Nat.le_refl 1
  exact ⟨by decide +kernel, hfile, aliases_read_once.1 "names" blankFile hfile⟩

-- A bare alias for the keyword itself, and a braced one that begins with its name.
example : ofLine "\\def\\def\x7b\\a\x7d\x7b\\b\x7d".toList =
    [⟨"\\a", "\\b"⟩, ⟨"\\def", "\\a"⟩] := by
  decide +kernel

end TexGlyph
