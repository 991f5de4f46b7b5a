import TexGlyph.Proofs.Spelling.Accounting
import TexGlyph.Proofs.Unicode.Decomposition

/-!
# Decompositions without a rendering

A pair whose second character has no accent command, a compatibility variant that is made neither
from a Greek letter nor of the characters of a ligature, and a tag without a rendering are complained
of (`Decomposition.complaint?`).  After a complaint about a tag the character is written as it is;
after the others it is left to the rules that follow (`rendered_of_complaint?`), which write it as it
is, too, when the lexicon has no command for it.

The rule for Greek letters comes in between.  It goes by the beginning of a name, so it takes a letter
with a breathing, whose pair has no rendering, and writes the last word of its name, which is that of
the breathing.  So a character passes through exactly if its name is no Greek one and no quote or dash
was asked for in its place (`Speller.passesThrough_iff`).
-/

namespace TexGlyph

/-! ### Complaints -/

/-- What is said about a decomposition of `c` that has no rendering. -/
def Decomposition.complaint? (c : Char) : Decomposition → Option Note
  | .accented _ mark => if (accentTag? mark).isSome then none else some (.unsupportedPair c)
  | .compat scalars =>
    if scalars.head?.any isGreekBlock || isLigature c then none else some (.unsupportedCompat c)
  | .unsupported tag => some (.unsupportedTag tag c)
  | _ => none

/-- A complaint is a warning. -/
theorem Decomposition.severity_of_complaint? {c : Char} {d : Decomposition} {n : Note}
    (h : d.complaint? c = some n) : n.severity = .warn := by
  cases d with
  | accented base mark =>
    obtain ⟨_, h⟩ := Option.ite_none_left_eq_some.1 h
    obtain rfl := Option.some.inj h
    rfl
  | compat scalars =>
    obtain ⟨_, h⟩ := Option.ite_none_left_eq_some.1 h
    obtain rfl := Option.some.inj h
    rfl
  | unsupported tag =>
    obtain rfl := Option.some.inj h
    rfl
  | _ => cases h

/-- The name of a character, if it begins like those of Greek letters. -/
def greekName? (c : Char) : Option String :=
  (charName? c).filter fun name => "GREEK".toList.isPrefixOf name.toList

/-- No mapping with a tag that has no rendering is that of a character with a Greek name. -/
theorem everyMapping_named :
    everyMapping (fun n tag _ =>
      match tag with
      | none => true
      | some tag => Tag.rendered.contains tag || (greekName? (Char.ofNat n)).isNone) = true := by
  decide +kernel

namespace Decomposition

/-- Only a mapping with a tag that has no rendering is read as unsupported. -/
theorem tag_of_unsupported {m : Mapping} {word : String}
    (h : ofMapping? m = some (.unsupported word)) :
    ∃ tag, m.tag = some tag ∧ tag ∉ Tag.rendered := by
  unfold ofMapping? at h
  split at h
  · cases h
  · split at h
    · split at h <;> cases h
    all_goals cases h
    rename_i tag hfont hsmall hcompat hsuper hsub hfraction htag
    refine ⟨tag, htag, ?_⟩
    simp only [Tag.rendered, List.mem_cons, List.not_mem_nil, or_false, not_or]
    exact ⟨hfont, hsmall, hcompat, hsuper, hsub, hfraction⟩

/-- A character with a tag that has no rendering has no Greek name. -/
theorem greekName?_eq_none_of_unsupported {c : Char} {word : String}
    (h : of? c = some (.unsupported word)) : greekName? c = none := by
  obtain ⟨tag, image, hat, hd⟩ := exists_mappingAt?_of_of? h
  obtain ⟨tag', htag, hnot⟩ := tag_of_unsupported hd
  obtain rfl : tag = some tag' := htag
  have hsweep := of_everyMapping everyMapping_named hat
  rw [Char.ofNat_toNat, Bool.or_eq_true, List.contains_iff_mem, Option.isNone_iff_eq_none] at hsweep
  exact hsweep.resolve_left hnot

end Decomposition

namespace Speller

variable (s : Speller)

/-! ### What comes after a complaint -/

/-- After a complaint about a tag the character stays, and after any other the next rules take
over. -/
theorem rendered_of_complaint? {c : Char} {d : Decomposition} {n : Note}
    (h : d.complaint? c = some n) :
    s.rendered c d = .note n :: s.fallback c ∨
      (∃ tag, d = .unsupported tag) ∧ s.rendered c d = [.note n, .write (charFragment c)] := by
  -- There are three kinds of complaints, and the one about a tag ends the rules.
  cases d with
  | accented base mark =>
    obtain ⟨hmark, h⟩ := Option.ite_none_left_eq_some.1 h
    obtain rfl := Option.some.inj h
    have hnone : accentTag? mark = none := by simpa using hmark
    left
    rw [rendered, decomposed, hnone]
  | compat scalars =>
    obtain ⟨hplain, h⟩ := Option.ite_none_left_eq_some.1 h
    obtain rfl := Option.some.inj h
    left
    cases scalars with
    | nil => rfl
    | cons first rest =>
      rw [List.head?_cons, Option.any_some, Bool.or_eq_true, not_or] at hplain
      obtain ⟨hgreek, hligature⟩ := hplain
      rw [rendered, decomposed, if_neg hgreek]
      exact if_neg hligature
  | unsupported tag =>
    obtain rfl := Option.some.inj h
    exact .inr ⟨⟨tag, rfl⟩, rfl⟩
  | _ => cases h

/-- A character outside ASCII without a Greek name and without a command stays, with a warning. -/
theorem fallback_of_no_command {c : Char} (hforeign : isForeign c = true)
    (hname : greekName? c = none) (hcommand : s.lexicon.canonical? c = none) :
    s.fallback c = [.note (.unconvertible c), .write (charFragment c)] := by
  rw [greekName?] at hname
  rw [fallback, hname]
  simp only [hforeign, hcommand, ↓reduceIte]

/-- A character with a Greek name is written as a command with the last word of the name. -/
theorem fallback_of_greekName? {c : Char} {name : String} (hname : greekName? c = some name) :
    s.fallback c = [.write (commandFragment ("\\" ++ greekCommand name))] := by
  rw [greekName?] at hname
  rw [fallback, hname]

/-! ### Characters in a text -/

/-- Whether a character adds the given fragment and the given remarks to every text, with any
characters before it and after it. -/
def Adds (c : Char) (remarks : List Note) (fragment : String) : Prop :=
  ∀ (p : Position) (before after : List Char),
    let here := p.advance (before.length + 1)
    let front := s.spellFrom p before []
    let back := s.spellFrom here after (fragment :: front.1)
    s.spellFrom p (before ++ c :: after) [] =
      (back.1, front.2 ++ remarks.map (⟨here, ·⟩) ++ back.2)

/-- Whether a character stays as it is in every text, with the given note among its remarks. -/
def PassesThrough (c : Char) (n : Note) : Prop :=
  ∃ remarks, n ∈ remarks ∧ s.Adds c remarks (charFragment c)

variable {s}

theorem adds_of_actions {c : Char} {remarks : List Note} {fragment : String}
    (h : s.actions c = remarks.map .note ++ [.write fragment]) : s.Adds c remarks fragment := by
  intro p before after
  simp only [spellFrom_append, spellFrom, h, Action.perform_append, Action.perform_map_note,
    Action.perform, Action.apply, Action.notes, Position.advance_advance, List.append_nil,
    List.append_assoc]

/-- A character adds one fragment only, with one list of remarks. -/
theorem Adds.unique {c : Char} {remarks remarks' : List Note} {fragment fragment' : String}
    (h : s.Adds c remarks fragment) (h' : s.Adds c remarks' fragment') :
    remarks = remarks' ∧ fragment = fragment' := by
  have heq := (h ⟨"", 1, 0⟩ [] []).symm.trans (h' ⟨"", 1, 0⟩ [] [])
  simp only [spellFrom, List.nil_append, List.append_nil, Prod.mk.injEq, List.cons.injEq,
    and_true] at heq
  obtain ⟨hfragment, hremarks⟩ := heq
  refine ⟨?_, hfragment⟩
  exact List.map_injective_iff.2 (fun _ _ hnote => congrArg LocatedNote.note hnote) hremarks

/-- A command is no single character. -/
theorem charFragment_ne_commandFragment (c : Char) (name : String) :
    charFragment c ≠ commandFragment ("\\" ++ name) := by
  intro h
  have hlength := congrArg (String.length) h
  simp only [charFragment, commandFragment, String.length_append, String.length_ofList,
    List.length_singleton] at hlength
  have hback : "\\".length = 1 := rfl
  have hblank : " ".length = 1 := rfl
  omega

/-- A quote or a dash that was asked for is written without any remark. -/
theorem adds_of_ligature? {c : Char} {spelling : String} (h : s.ligature? c = some spelling) :
    s.Adds c [] spelling :=
  adds_of_actions (s.actions_of_direct? (s.direct?_of_ligature h))

/-- A character without a command that is not asked for as a quote or a dash comes to its
decomposition, and a complaint about that is the second of its remarks. -/
theorem actions_of_complaint? {c : Char} {d : Decomposition} {n : Note}
    (hd : Decomposition.of? c = some d) (hn : d.complaint? c = some n)
    (hligature : s.ligature? c = none) (hoverride : s.preferences.overrides[c]? = none)
    (hcommand : s.lexicon.canonical? c = none) :
    s.actions c = .note (.decomposing c d) :: .note n :: s.fallback c ∨
      greekName? c = none ∧
        s.actions c = [.note (.decomposing c d), .note n, .write (charFragment c)] := by
  have hsymbol : (if s.preferences.preferMath then s.symbol? c else none) = none := by
    rw [symbol?, hcommand, ite_self, ite_self]
  have hdirect := s.direct?_eq_none hligature hoverride hsymbol (s.mark?_eq_none_of_decomposition hd)
  rw [s.actions_of_decomposition hdirect hd]
  obtain hfall | ⟨⟨tag, rfl⟩, hstay⟩ := s.rendered_of_complaint? hn
  · exact .inl (congrArg _ hfall)
  · exact .inr ⟨Decomposition.greekName?_eq_none_of_unsupported hd, congrArg _ hstay⟩

/-- **A character whose decomposition is complained of passes through** if no quote or dash was
asked for in its place and its name is no Greek one, and only then.  The complaint is a warning.  A
character with a Greek name is lost: what it adds is a command with the last word of the name. -/
theorem passesThrough_iff {c : Char} {d : Decomposition} {n : Note}
    (hd : Decomposition.of? c = some d) (hn : d.complaint? c = some n)
    (hoverride : s.preferences.overrides[c]? = none) (hcommand : s.lexicon.canonical? c = none) :
    n.severity = .warn ∧
    (s.PassesThrough c n ↔ s.ligature? c = none ∧ greekName? c = none) ∧
    (s.ligature? c = none → ∀ name, greekName? c = some name →
      s.Adds c [.decomposing c d, n] (commandFragment ("\\" ++ greekCommand name))) := by
  have hgreek : s.ligature? c = none → ∀ name, greekName? c = some name →
      s.Adds c [.decomposing c d, n] (commandFragment ("\\" ++ greekCommand name)) := by
    intro hligature name hname
    obtain hactions | ⟨hnone, -⟩ := actions_of_complaint? hd hn hligature hoverride hcommand
    · rw [s.fallback_of_greekName? hname] at hactions
      exact adds_of_actions hactions
    · rw [hname] at hnone
      cases hnone
  refine ⟨Decomposition.severity_of_complaint? hn, ⟨?_, ?_⟩, hgreek⟩
  · rintro ⟨remarks, hmem, hadds⟩
    -- A quote or a dash is spelled without any remark, so the complaint excludes it.
    have hligature : s.ligature? c = none := by
      cases hspelling : s.ligature? c with
      | none => rfl
      | some spelling =>
        obtain ⟨rfl, -⟩ := hadds.unique (adds_of_ligature? hspelling)
        cases hmem
    refine ⟨hligature, ?_⟩
    cases hname : greekName? c with
    | none => rfl
    | some name =>
      -- What a character adds is determined, and a command is not the character.
      have hfragment := (hadds.unique (hgreek hligature name hname)).2
      exact absurd hfragment (charFragment_ne_commandFragment c _)
  · rintro ⟨hligature, hname⟩
    obtain hactions | ⟨-, hactions⟩ := actions_of_complaint? hd hn hligature hoverride hcommand
    · rw [s.fallback_of_no_command (isForeign_of_decomposition hd) hname hcommand] at hactions
      exact ⟨[.decomposing c d, n, .unconvertible c], by simp, adds_of_actions hactions⟩
    · exact ⟨[.decomposing c d, n], by simp, adds_of_actions hactions⟩

/-- A letter with a point below it, which has no accent command, passes through. -/
theorem passesThrough_iff_hiriq :
    Decomposition.of? '\uFB1D' = some (.accented '\u05D9' '\u05B4') ∧
      (Decomposition.accented '\u05D9' '\u05B4').complaint? '\uFB1D' =
        some (.unsupportedPair '\uFB1D') ∧
      (Speller.mk {} {}).preferences.overrides['\uFB1D']? = none ∧
      (Speller.mk {} {}).lexicon.canonical? '\uFB1D' = none ∧
      (Note.unsupportedPair '\uFB1D').severity = .warn ∧
      (Speller.mk {} {}).PassesThrough '\uFB1D' (.unsupportedPair '\uFB1D') := by
  have hd : Decomposition.of? '\uFB1D' = some (.accented '\u05D9' '\u05B4') := by decide +kernel
  have hn : (Decomposition.accented '\u05D9' '\u05B4').complaint? '\uFB1D' =
      some (.unsupportedPair '\uFB1D') := by decide +kernel
  have hname : greekName? '\uFB1D' = none := by decide +kernel
  obtain ⟨hwarn, hiff, -⟩ := passesThrough_iff (s := Speller.mk {} {}) hd hn rfl rfl
  exact ⟨hd, hn, rfl, rfl, hwarn, hiff.2 ⟨rfl, hname⟩⟩

/-- A letter with a breathing, which has no accent command either, becomes the name of the
breathing. -/
theorem not_passesThrough_psili :
    Decomposition.of? 'ἀ' = some (.accented 'α' '\u0313') ∧
      (Decomposition.accented 'α' '\u0313').complaint? 'ἀ' = some (.unsupportedPair 'ἀ') ∧
      (Speller.mk {} {}).preferences.overrides['ἀ']? = none ∧
      (Speller.mk {} {}).lexicon.canonical? 'ἀ' = none ∧
      ((Speller.mk {} {}).spell ⟨"cmdline", 1, 0⟩ "ἀ").text = "\\psili " ∧
      ¬ (Speller.mk {} {}).PassesThrough 'ἀ' (.unsupportedPair 'ἀ') := by
  refine ⟨by decide +kernel, by decide +kernel, rfl, rfl, by decide +kernel, ?_⟩
  rintro ⟨remarks, -, hadds⟩
  have halone := congrArg Prod.fst (hadds ⟨"cmdline", 1, 0⟩ [] [])
  have hfragment : ((Speller.mk {} {}).spellFrom ⟨"cmdline", 1, 0⟩ ['ἀ'] []).1 ≠
      [charFragment 'ἀ'] := by decide +kernel
  exact hfragment halone

end Speller

end TexGlyph
