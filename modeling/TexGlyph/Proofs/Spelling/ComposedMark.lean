import TexGlyph.Proofs.Spelling.Chunk
import TexGlyph.Proofs.Spelling.Precomposed
import TexGlyph.Proofs.Spelling.Unsupported

/-!
# Combining marks made of other marks

A few combining marks are mapped to marks with an accent command.  They have no command themselves,
so rule 4 passes them over and rule 5 spells their decomposition, apart from the fragments so far:
its marks find nothing before them and stand over a blank (`Speller.actions_of_composedMark`).  The
same marks written out stand over the fragment before.

The two spellings differ after every character (`Speller.text_spell_composedMark_iff`).  What an
action adds to the length of a text does not depend on the fragments, as long as there are any
(`Action.length_textOf_perform`), so both spellings get the same commands and the same rest, and the
first one is longer by the blank.
-/

namespace TexGlyph

/-! ### The length of a text -/

namespace Action

/-- How many characters an action adds to the text of fragments, if there are any. -/
def growth : Action → Nat
  | note _ => 0
  | write fragment => fragment.length
  | accent _ command => command.length + 2

/-- How many characters actions add, one after the other. -/
def totalGrowth : List Action → Nat
  | [] => 0
  | action :: actions => action.growth + totalGrowth actions

theorem length_applied (command argument : String) :
    (applied command argument).length = argument.length + (command.length + 2) := by
  have hopening : "\x7b".length = 1 := rfl
  have hclosing : "\x7d".length = 1 := rfl
  simp only [applied, String.length_append, hopening, hclosing]
  omega

theorem length_textOf_apply (action : Action) {stack : List String} (h : stack ≠ []) :
    (textOf (action.apply stack)).length = (textOf stack).length + action.growth := by
  obtain ⟨fragment, stack, rfl⟩ := List.exists_cons_of_ne_nil h
  cases action with
  | note n => rfl
  | write new => rw [apply, textOf_cons, String.length_append, growth]
  | accent mark command =>
    rw [apply, textOf_cons, textOf_cons, String.length_append, String.length_append,
      length_applied, growth, Nat.add_assoc]

/-- Actions add the same length to all fragments. -/
theorem length_textOf_perform (actions : List Action) {stack : List String} (h : stack ≠ []) :
    (textOf (perform actions stack).1).length =
      (textOf stack).length + totalGrowth actions := by
  induction actions generalizing stack with
  | nil => rfl
  | cons action actions ih =>
    have hperform : (perform (action :: actions) stack).1 =
        (perform actions (action.apply stack)).1 := rfl
    rw [hperform, ih (apply_ne_nil action h), length_textOf_apply action h,
      totalGrowth, Nat.add_assoc]

end Action

namespace Speller

variable {s : Speller}

/-- Characters are spelled one after the other by the actions of all of them. -/
theorem foldl_push_eq_perform (cs : List Char) (stack : List String) :
    cs.foldl s.push stack = (Action.perform (cs.flatMap s.actions) stack).1 := by
  induction cs generalizing stack with
  | nil => rfl
  | cons c cs ih =>
    rw [List.foldl_cons, ih, List.flatMap_cons, Action.perform_append]
    rfl

/-- A text adds the same length to all fragments. -/
theorem length_textOf_foldl_push (cs : List Char) {stack : List String} (h : stack ≠ []) :
    (Action.textOf (cs.foldl s.push stack)).length =
      (Action.textOf stack).length + Action.totalGrowth (cs.flatMap s.actions) := by
  rw [foldl_push_eq_perform, Action.length_textOf_perform _ h]

/-- Every character leaves a fragment. -/
theorem push_ne_nil (c : Char) (stack : List String) : s.push stack c ≠ [] := by
  cases hoverlay : s.overlay? c with
  | some command =>
    obtain ⟨mark, hactions⟩ := s.actions_of_overlay? hoverlay
    rw [push, hactions]
    cases stack <;> exact List.cons_ne_nil _ _
  | none =>
    obtain ⟨hstack, hne⟩ := (s.standsAlone_actions hoverlay).perform_eq stack
    rw [push, hstack]
    exact List.append_ne_nil_of_left_ne_nil hne stack

/-- A text that is not empty leaves fragments. -/
theorem foldl_push_ne_nil {cs : List Char} (h : cs ≠ []) (stack : List String) :
    cs.foldl s.push stack ≠ [] := by
  rw [← List.dropLast_concat_getLast h, List.foldl_append]
  exact push_ne_nil _ _

/-! ### Marks one after the other -/

/-- A text under the accent commands of marks, the first of them next to it. -/
def underMarks (s : Speller) (marks : List Char) (text : String) : String :=
  marks.foldl (fun text mark =>
    match accentTag? mark with
    | some tag => applied (s.preferences.accentMode.command tag) text
    | none => text) text

theorem underMarks_cons {mark tag : Char} (htag : accentTag? mark = some tag) (marks : List Char)
    (text : String) :
    s.underMarks (mark :: marks) text =
      s.underMarks marks (applied (s.preferences.accentMode.command tag) text) := by
  rw [underMarks, List.foldl_cons, htag]
  rfl

section Plain

variable (haccents : s.preferences.accents = true) (hoverrides : s.preferences.overrides = ∅)
  (hmath : s.preferences.preferMath = false)

include hoverrides in
theorem override_eq_none (c : Char) : s.preferences.overrides[c]? = none := by
  rw [hoverrides]
  exact Std.ExtTreeMap.getElem?_empty

include hmath in
theorem preferred_eq_none (c : Char) :
    (if s.preferences.preferMath then s.symbol? c else none) = none := by
  rw [hmath]
  rfl

include haccents hoverrides hmath

theorem actions_of_plain_mark {mark tag : Char} (htag : accentTag? mark = some tag) :
    s.actions mark = [.accent mark (s.preferences.accentMode.command tag)] :=
  actions_of_accentTag? haccents htag (override_eq_none hoverrides mark)
    (preferred_eq_none hmath mark)

/-- Marks stand over the last fragment, one over the other, and nothing is said about them. -/
theorem perform_marks {marks : List Char} (hmarks : ∀ x ∈ marks, (accentTag? x).isSome = true)
    (fragment : String) (stack : List String) :
    Action.perform (marks.flatMap s.actions) (fragment :: stack) =
      (s.underMarks marks fragment :: stack, []) := by
  induction marks generalizing fragment with
  | nil => rfl
  | cons mark marks ih =>
    obtain ⟨tag, htag⟩ := Option.isSome_iff_exists.1 (hmarks mark List.mem_cons_self)
    rw [List.flatMap_cons, actions_of_plain_mark haccents hoverrides hmath htag,
      List.singleton_append, underMarks_cons htag]
    simp only [Action.perform, Action.apply, Action.notes, List.nil_append,
      ih fun x hx => hmarks x (List.mem_cons_of_mem mark hx)]

/-- Marks without a fragment before them stand over a blank, and the first is complained of. -/
theorem perform_marks_nil {first : Char} {rest : List Char}
    (hmarks : ∀ x ∈ first :: rest, (accentTag? x).isSome = true) :
    Action.perform ((first :: rest).flatMap s.actions) [] =
      ([s.underMarks (first :: rest) " "], [.strayMark first]) := by
  obtain ⟨tag, htag⟩ := Option.isSome_iff_exists.1 (hmarks first List.mem_cons_self)
  have hrest := perform_marks haccents hoverrides hmath
    (fun x hx => hmarks x (List.mem_cons_of_mem first hx))
    (applied (s.preferences.accentMode.command tag) " ") []
  rw [List.flatMap_cons, actions_of_plain_mark haccents hoverrides hmath htag,
    List.singleton_append, underMarks_cons htag]
  simp only [Action.perform, Action.apply, Action.notes, hrest, List.append_nil]

/-! ### Marks in a decomposition -/

/-- A decomposition that consists of marks is spelled apart, so its marks stand over a blank. -/
theorem rendered_of_marks {c first : Char} {rest : List Char} {d : Decomposition}
    (hmarks : ∀ x ∈ first :: rest, (accentTag? x).isSome = true)
    (hd : Decomposition.ofMapping? ⟨none, first :: rest⟩ = some d) :
    s.rendered c d = [.note (.strayMark first), .write (s.underMarks (first :: rest) " ")] := by
  have hall := perform_marks_nil haccents hoverrides hmath hmarks
  have hcanonical : s.rendered c (.canonical (first :: rest)) =
      [.note (.strayMark first), .write (s.underMarks (first :: rest) " ")] := by
    rw [rendered, decomposed]
    simp only [List.flatMap_subtype, List.unattach_attach, Action.enclose, Action.apart, hall,
      Action.textOf_cons, Action.textOf_nil, String.empty_append, id_eq]
    rfl
  rcases rest with _ | ⟨second, _ | ⟨third, rest⟩⟩
  · obtain rfl := Option.some.inj hd
    exact hcanonical
  · -- Two marks are taken for a base with a mark: the command of the second goes around the first.
    obtain rfl := Option.some.inj hd
    obtain ⟨tag, htag⟩ := Option.isSome_iff_exists.1 (hmarks first List.mem_cons_self)
    obtain ⟨tag', htag'⟩ := Option.isSome_iff_exists.1
      (hmarks second (List.mem_cons_of_mem first List.mem_cons_self))
    rw [rendered, decomposed, htag']
    simp only [haccents, ↓reduceIte, Action.enclose, Action.apart,
      actions_of_plain_mark haccents hoverrides hmath htag, underMarks_cons htag,
      underMarks_cons htag']
    rfl
  · obtain rfl := Option.some.inj hd
    exact hcanonical

/-- A mark that is mapped to other marks writes these over a blank, and the first is complained of
as having nothing before it. -/
theorem actions_of_composedMark {c first : Char} {rest : List Char}
    (hmapping : Mapping.of? c = some ⟨none, first :: rest⟩)
    (hmarks : ∀ x ∈ first :: rest, (accentTag? x).isSome = true) :
    ∃ d, Decomposition.of? c = some d ∧
      s.actions c = [.note (.decomposing c d), .note (.strayMark first),
        .write (s.underMarks (first :: rest) " ")] := by
  have htag : ∀ t ∈ (none : Option Tag), t ∈ Tag.rendered := by simp
  obtain ⟨d, hsort, -⟩ := Decomposition.scalars_ofMapping? htag (List.cons_ne_nil first rest)
  have hd : Decomposition.of? c = some d := by
    rw [Decomposition.of?, hmapping]
    exact hsort
  have hligature : s.ligature? c = none := ligature?_eq_none (lookup_spellings_of_untagged hmapping)
  have hdirect := s.direct?_eq_none hligature (override_eq_none hoverrides c)
    (preferred_eq_none hmath c) (s.mark?_eq_none_of_decomposition hd)
  refine ⟨d, hd, ?_⟩
  rw [s.actions_of_decomposition hdirect hd,
    rendered_of_marks haccents hoverrides hmath hmarks hsort]

/-- After any fragment, a mark that is mapped to other marks makes a text longer by one character
than these marks do. -/
theorem length_textOf_push_composedMark {c first : Char} {rest : List Char}
    (hmapping : Mapping.of? c = some ⟨none, first :: rest⟩)
    (hmarks : ∀ x ∈ first :: rest, (accentTag? x).isSome = true)
    {stack : List String} (hstack : stack ≠ []) :
    (Action.textOf (s.push stack c)).length =
      (Action.textOf ((first :: rest).foldl s.push stack)).length + 1 := by
  obtain ⟨d, -, hactions⟩ := actions_of_composedMark haccents hoverrides hmath hmapping hmarks
  have hpush : s.push stack c = s.underMarks (first :: rest) " " :: stack := by
    rw [push, hactions]
    rfl
  have hblank : (s.underMarks (first :: rest) " ").length =
      1 + Action.totalGrowth ((first :: rest).flatMap s.actions) := by
    have hlength := Action.length_textOf_perform ((first :: rest).flatMap s.actions)
      (List.cons_ne_nil " " [])
    rwa [perform_marks haccents hoverrides hmath hmarks, Action.textOf_cons, Action.textOf_nil,
      String.empty_append] at hlength
  rw [hpush, Action.textOf_cons, String.length_append, hblank, length_textOf_foldl_push _ hstack]
  omega

end Plain

/-- **A mark made of other marks is spelled like these only if nothing is before it.**  It adds a
fragment of its own wherever it stands, the accent commands of its marks over a blank, and it is
complained of as having nothing before it. -/
theorem text_spell_composedMark_iff (s : Speller) (haccents : s.preferences.accents = true)
    (hoverrides : s.preferences.overrides = ∅) (hmath : s.preferences.preferMath = false)
    {c first : Char} {rest : List Char} (hmapping : Mapping.of? c = some ⟨none, first :: rest⟩)
    (hmarks : ∀ x ∈ first :: rest, (accentTag? x).isSome = true) :
    (∃ d, Decomposition.of? c = some d ∧
      s.Adds c [.decomposing c d, .strayMark first] (s.underMarks (first :: rest) " ")) ∧
    ∀ (p q : Position) (before after : String),
      (s.spell p (before ++ String.ofList [c] ++ after)).text =
          (s.spell q (before ++ String.ofList (first :: rest) ++ after)).text ↔
        before = "" := by
  obtain ⟨d, hd, hactions⟩ := actions_of_composedMark haccents hoverrides hmath hmapping hmarks
  refine ⟨⟨d, hd, adds_of_actions hactions⟩, fun p q before after => ?_⟩
  have hone : ∀ stack, [c].foldl s.push stack = s.push stack c := fun _ => rfl
  rw [text_spell, text_spell]
  simp only [String.toList_append, String.toList_ofList, List.foldl_append, hone]
  constructor
  · intro htext
    by_contra hbefore
    have hstack : before.toList.foldl s.push [] ≠ [] :=
      foldl_push_ne_nil (mt String.toList_eq_nil_iff.1 hbefore) []
    -- The same text follows after fragments of different lengths.
    have hlength := congrArg String.length htext
    rw [length_textOf_foldl_push after.toList (push_ne_nil c _),
      length_textOf_foldl_push after.toList (foldl_push_ne_nil (List.cons_ne_nil first rest) _),
      length_textOf_push_composedMark haccents hoverrides hmath hmapping hmarks hstack] at hlength
    omega
  · rintro rfl
    have hpush : s.push [] c = [s.underMarks (first :: rest) " "] := by
      rw [push, hactions]
      rfl
    have hmarked : (first :: rest).foldl s.push [] = [s.underMarks (first :: rest) " "] := by
      rw [foldl_push_eq_perform, perform_marks_nil haccents hoverrides hmath hmarks]
    exact congrArg (fun stack => Action.textOf (after.toList.foldl s.push stack))
      (hpush.trans hmarked.symm)

/-- A speller for accents in formulas. -/
def formulaic : Speller where
  preferences := { accentMode := .math }
  lexicon := {}

/-- A diaeresis with an acute, made of two marks, after a letter and before another mark. -/
theorem text_spell_composedMark_iff_dialytika :
    (formulaic.preferences.accents = true ∧ formulaic.preferences.overrides = ∅ ∧
      formulaic.preferences.preferMath = false ∧
      Mapping.of? '\u0344' = some ⟨none, ['\u0308', '\u0301']⟩ ∧
      (∀ x ∈ ['\u0308', '\u0301'], (accentTag? x).isSome = true)) ∧
    (formulaic.spell ⟨"in", 1, 0⟩ ("" ++ String.ofList ['\u0344'] ++ "\u0304ν")).text =
      (formulaic.spell ⟨"in", 1, 0⟩
        ("" ++ String.ofList ['\u0308', '\u0301'] ++ "\u0304ν")).text ∧
    (formulaic.spell ⟨"in", 1, 0⟩ ("ι" ++ String.ofList ['\u0344'] ++ "\u0304ν")).text ≠
      (formulaic.spell ⟨"in", 1, 0⟩
        ("ι" ++ String.ofList ['\u0308', '\u0301'] ++ "\u0304ν")).text := by
  have hmapping : Mapping.of? '\u0344' = some ⟨none, ['\u0308', '\u0301']⟩ := by decide +kernel
  have hmarks : ∀ x ∈ ['\u0308', '\u0301'], (accentTag? x).isSome = true :=
    List.all_eq_true.1 (by decide)
  obtain ⟨-, hiff⟩ := text_spell_composedMark_iff formulaic rfl rfl rfl hmapping hmarks
  exact ⟨⟨rfl, rfl, rfl, hmapping, hmarks⟩, (hiff _ _ "" _).2 rfl,
    mt (hiff _ _ "ι" _).1 (by decide)⟩

/-- The tone mark of a grave stands over a blank after the letter, and the grave over the letter. -/
theorem not_text_spell_toneMark :
    isCombiningMark '\u0340' = true ∧ Mapping.of? '\u0340' = some ⟨none, ['\u0300']⟩ ∧
      (accentTag? '\u0300').isSome = true ∧
      (Speller.mk {} {}).preferences.accents = true ∧ (Speller.mk {} {}).preferences.overrides = ∅ ∧
      (Speller.mk {} {}).preferences.preferMath = false ∧
      ((Speller.mk {} {}).spell ⟨"cmdline", 1, 0⟩ ("e" ++ String.ofList ['\u0340'] ++ "")).text =
        "e\\\x60\x7b \x7d" ∧
      ((Speller.mk {} {}).spell ⟨"cmdline", 1, 0⟩ ("e" ++ String.ofList ['\u0300'] ++ "")).text =
        "\\\x60\x7be\x7d" := by
  refine ⟨by decide, by decide +kernel, by decide, rfl, rfl, rfl, ?_, ?_⟩
  · decide +kernel
  · decide +kernel

end Speller

end TexGlyph
