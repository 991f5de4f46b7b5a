import Mathlib.Data.List.Forall2
import TexGlyph.Proofs.Latex.AccentCommand
import TexGlyph.Proofs.Spelling.Rule

/-!
# Fragments with their accent commands renamed

An accent mode names accent commands, so the fragments of one mode have to turn into those of
another when accent commands are renamed.  A plain fragment stays as it is
(`IsPlainFragment.renames`), whatever is put around a fragment is put around the renamed one, and an
accent command over a fragment gets its name (`Renames.accentCommand`).  Actions that are alike
(`Action.Alike`) keep to this step by step, and so do the lists of actions that rules are made of
(`Action.alike_perform`, `Action.alike_enclose`).

The variant form of a command puts letters after its backslash, which would hide the command of an
accent; for plain fragments it does not matter (`IsPlainFragment.variantForm`).
-/

namespace TexGlyph

/-! ### The names of a mode -/

/-- The names that a mode has for the tags of accents. -/
def AccentMode.names : AccentMode → List (Char × String)
  | text => []
  | math => mathAccents
  | auto => []

theorem AccentMode.command_eq (mode : AccentMode) (tag : Char) :
    mode.command tag = "\\" ++ (mode.names.lookup tag).getD (String.ofList [tag]) := by
  cases mode <;> rfl

theorem AccentMode.lookup_names_blank (mode : AccentMode) : mode.names.lookup ' ' = none := by
  cases mode <;> decide

theorem areAccentNames_names (mode : AccentMode) : areAccentNames mode.names = true := by
  cases mode <;> decide

theorem all_accentTags_named : accentTags.all (fun entry => entry.2 != '\\') = true := by decide

theorem accentTag?_ne_escape {mark tag : Char} (h : accentTag? mark = some tag) : tag ≠ '\\' :=
  bne_iff_ne.1 (List.all_eq_true.1 all_accentTags_named (mark, tag) (mem_of_lookup h))

/-! ### Plain fragments -/

/-- What is written without a decomposition and without an accent: a command without braces and its
blank, or a text without backslashes. -/
inductive IsPlainFragment : String → Prop where
  /-- A command and its blank. -/
  | command {name : String} (h : '\x7b' ∉ name.toList) :
    IsPlainFragment (Speller.commandFragment name)
  /-- A text without backslashes. -/
  | text {words : String} (h : '\\' ∉ words.toList) : IsPlainFragment words

namespace IsPlainFragment

variable {fragment : String}

theorem isInert (h : IsPlainFragment fragment) : isInert fragment.toList = true := by
  cases h with
  | command h =>
    rw [Speller.commandFragment, String.toList_append]
    exact isInert_append_blank h
  | text h => exact isInert_of_not_mem h

/-- The variant form of a command is a command, and any other text has none. -/
theorem variantForm (h : IsPlainFragment fragment) : IsPlainFragment (variantForm fragment) := by
  unfold TexGlyph.variantForm
  split
  · rename_i rest hrest
    cases h with
    | text h => exact absurd (hrest ▸ List.mem_cons_self) h
    | @command name h =>
      rw [Speller.commandFragment, String.toList_append] at hrest
      match hname : name.toList with
      | [] =>
        rw [hname] at hrest
        cases hrest
      | c :: cs =>
        rw [hname, List.cons_append, List.cons.injEq] at hrest
        obtain ⟨_, rfl⟩ := hrest
        have hvariant : "\\var" ++ String.ofList (cs ++ " ".toList) =
            Speller.commandFragment ("\\var" ++ String.ofList cs) := by
          rw [Speller.commandFragment, String.ofList_append, String.ofList_toList,
            String.append_assoc]
        have hbraceless : '\x7b' ∉ ("\\var" ++ String.ofList cs).toList := by
          rw [hname, List.mem_cons, not_or] at h
          simp [h.2]
        rw [hvariant]
        exact .command hbraceless
  · exact h

theorem renames (h : IsPlainFragment fragment) (mode : AccentMode) :
    Renames mode.names fragment fragment :=
  .of_isInert mode.lookup_names_blank fragment h.isInert

end IsPlainFragment

/-! ### Wrappings -/

section Wrapping

variable (mode : AccentMode) {text renamed : String}

theorem isInert_fontStyles :
    fontStyles.all (fun style => isInert (style.2 ++ "\x7b").toList) = true := by
  decide

theorem Renames.wrapStyles {styles : List (String × String)}
    (h : ∀ style ∈ styles, isInert (style.2 ++ "\x7b").toList = true) (name : List Char)
    (htext : Renames mode.names text renamed) :
    Renames mode.names (wrapStyles styles name text) (wrapStyles styles name renamed) := by
  induction styles generalizing name text renamed with
  | nil => exact htext
  | cons style styles ih =>
    have htail := fun st hst => h st (List.mem_cons_of_mem style hst)
    have hstyle := h style List.mem_cons_self
    rw [TexGlyph.wrapStyles, TexGlyph.wrapStyles]
    -- Which styles apply depends on the name alone.
    split
    · exact ih htail _ (htext.applied mode.lookup_names_blank hstyle)
    · exact ih htail _ htext

theorem Renames.wrapFont (htext : Renames mode.names text renamed) (name : String) :
    Renames mode.names (wrapFont name text) (wrapFont name renamed) :=
  Renames.wrapStyles mode (List.all_eq_true.1 isInert_fontStyles) name.toList htext

theorem Renames.small (htext : Renames mode.names text renamed) :
    Renames mode.names ("\x7b" ++ TexGlyph.applied "\\scriptsize" text ++ "\x7d")
      ("\x7b" ++ TexGlyph.applied "\\scriptsize" renamed ++ "\x7d") := by
  have hbrace := Renames.of_isInert mode.lookup_names_blank
  exact ((hbrace "\x7b" (by decide)).append
    (htext.applied mode.lookup_names_blank (by decide))).append (hbrace "\x7d" (by decide))

theorem Renames.fractionText {below renamedBelow : String}
    (htext : Renames mode.names text renamed) (hbelow : Renames mode.names below renamedBelow) :
    Renames mode.names (Speller.fractionText text below)
      (Speller.fractionText renamed renamedBelow) := by
  have hfixed := Renames.of_isInert mode.lookup_names_blank
  exact ((((hfixed "\x7b\\sfrac\x7b" (by decide)).append htext).append
    (hfixed "\x7d\x7b" (by decide))).append hbelow).append (hfixed "\x7d\x7d" (by decide))

theorem Renames.accentCommand {mark tag : Char} (htag : accentTag? mark = some tag)
    (htext : Renames mode.names text renamed) :
    Renames mode.names (TexGlyph.applied (AccentMode.text.command tag) text)
      (TexGlyph.applied (mode.command tag) renamed) := by
  rw [mode.command_eq]
  exact htext.accent mode.lookup_names_blank (accentTag?_ne_escape htag)

end Wrapping

/-! ### Actions -/

namespace Action

/-- Whether an action does in another mode what an action does in the mode of running text. -/
inductive Alike (mode : AccentMode) : Action → Action → Prop where
  /-- The same remark. -/
  | note (n : Note) : Alike mode (note n) (note n)
  /-- A fragment with its accent commands renamed. -/
  | write {fragment renamed : String} (h : Renames mode.names fragment renamed) :
    Alike mode (write fragment) (write renamed)
  /-- The accent command of the same tag. -/
  | accent (mark : Char) {tag : Char} (htag : accentTag? mark = some tag) :
    Alike mode (accent mark (AccentMode.text.command tag)) (accent mark (mode.command tag))

variable {mode : AccentMode} {actions actions' : List Action}

theorem alike_apply {action action' : Action} (h : Alike mode action action')
    {stack stack' : List String} (hstack : List.Forall₂ (Renames mode.names) stack stack') :
    List.Forall₂ (Renames mode.names) (action.apply stack) (action'.apply stack') ∧
      action.notes stack = action'.notes stack' := by
  cases h with
  | note n => exact ⟨hstack, rfl⟩
  | write h => exact ⟨.cons h hstack, rfl⟩
  | accent mark htag =>
    cases hstack with
    | nil =>
      -- With nothing before it a mark stands over a blank, which is the same in every mode.
      have hblank := Renames.of_isInert mode.lookup_names_blank " " (by decide)
      exact ⟨.cons (hblank.accentCommand mode htag) .nil, rfl⟩
    | cons hbase hbelow => exact ⟨.cons (hbase.accentCommand mode htag) hbelow, rfl⟩

/-- Actions that are alike leave fragments that are renamed, and make the same remarks. -/
theorem alike_perform (h : List.Forall₂ (Alike mode) actions actions') {stack stack' : List String}
    (hstack : List.Forall₂ (Renames mode.names) stack stack') :
    List.Forall₂ (Renames mode.names) (perform actions stack).1 (perform actions' stack').1 ∧
      (perform actions stack).2 = (perform actions' stack').2 := by
  induction h generalizing stack stack' with
  | nil => exact ⟨hstack, rfl⟩
  | cons haction _ ih =>
    obtain ⟨happly, hnotes⟩ := alike_apply haction hstack
    obtain ⟨hperform, hlater⟩ := ih happly
    exact ⟨hperform, congrArg₂ (· ++ ·) hnotes hlater⟩

/-- The texts of fragments that are renamed are renamed. -/
theorem renames_textOf {stack stack' : List String}
    (h : List.Forall₂ (Renames mode.names) stack stack') :
    Renames mode.names (textOf stack) (textOf stack') := by
  induction h with
  | nil => exact .of_isInert mode.lookup_names_blank "" rfl
  | cons hfragment _ ih =>
    rw [textOf_cons, textOf_cons]
    exact ih.append hfragment

theorem alike_map_note (remarks : List Note) :
    List.Forall₂ (Alike mode) (remarks.map note) (remarks.map note) := by
  rw [List.forall₂_same]
  intro action hmem
  obtain ⟨n, _, rfl⟩ := List.mem_map.1 hmem
  exact .note n

theorem alike_write (remarks : List Note) {fragment renamed : String}
    (h : Renames mode.names fragment renamed) :
    List.Forall₂ (Alike mode) (remarks.map note ++ [write fragment])
      (remarks.map note ++ [write renamed]) :=
  List.rel_append (alike_map_note remarks) (.cons (.write h) .nil)

theorem alike_apart (h : List.Forall₂ (Alike mode) actions actions') :
    Renames mode.names (apart actions).1 (apart actions').1 ∧
      (apart actions).2 = (apart actions').2 := by
  obtain ⟨hstack, hnotes⟩ := alike_perform h .nil
  exact ⟨renames_textOf hstack, hnotes⟩

theorem alike_enclose (h : List.Forall₂ (Alike mode) actions actions') {wrap wrap' : String → String}
    (hwrap : Renames mode.names (apart actions).1 (apart actions').1 →
      Renames mode.names (wrap (apart actions).1) (wrap' (apart actions').1)) :
    List.Forall₂ (Alike mode) (enclose actions wrap) (enclose actions' wrap') := by
  obtain ⟨htext, hnotes⟩ := alike_apart h
  show List.Forall₂ _ ((apart actions).2.map note ++ _) ((apart actions').2.map note ++ _)
  rw [hnotes]
  exact alike_write _ (hwrap htext)

theorem alike_enclosePair (h : List.Forall₂ (Alike mode) actions actions')
    {below below' : List Action} (hbelow : List.Forall₂ (Alike mode) below below') :
    List.Forall₂ (Alike mode) (enclosePair actions below Speller.fractionText)
      (enclosePair actions' below' Speller.fractionText) := by
  obtain ⟨htext, hnotes⟩ := alike_apart h
  obtain ⟨htext', hnotes'⟩ := alike_apart hbelow
  show List.Forall₂ _ (((apart actions).2 ++ (apart below).2).map note ++ _)
    (((apart actions').2 ++ (apart below').2).map note ++ _)
  rw [hnotes, hnotes']
  exact alike_write _ (htext.fractionText mode htext')

theorem alike_flatMap {f g : Char → List Action} {chars : List Char}
    (h : ∀ c ∈ chars, List.Forall₂ (Alike mode) (f c) (g c)) :
    List.Forall₂ (Alike mode) (chars.flatMap f) (chars.flatMap g) := by
  induction chars with
  | nil => exact .nil
  | cons c chars ih =>
    obtain ⟨hc, hchars⟩ := List.forall_mem_cons.1 h
    exact List.rel_append hc (ih hchars)

end Action

end TexGlyph
