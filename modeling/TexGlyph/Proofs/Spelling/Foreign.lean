import TexGlyph.Proofs.Spelling.Text
import TexGlyph.Proofs.Unicode.Name

/-!
# Characters outside ASCII

`foreignIn` lists the characters of a text outside ASCII in order.  Everything that can be put
around a text keeps this list (`foreignIn_wrap`, `foreignIn_fractionText`), so a character outside
ASCII can be followed from the place where it is written through every wrapping.
-/

namespace TexGlyph

/-! ### The characters of a text outside ASCII -/

/-- The characters of a text outside ASCII, in order. -/
def foreignIn (text : String) : List Char := text.toList.filter Speller.isForeign

/-- Whether a text is ASCII. -/
def IsAscii (text : String) : Prop := ∀ c ∈ text.toList, Speller.isForeign c = false

theorem isAscii_iff {text : String} : IsAscii text ↔ foreignIn text = [] := by
  unfold IsAscii foreignIn
  rw [List.filter_eq_nil_iff]
  simp only [Bool.not_eq_true]

@[simp] theorem foreignIn_append (a b : String) :
    foreignIn (a ++ b) = foreignIn a ++ foreignIn b := by
  simp only [foreignIn, String.toList_append, List.filter_append]

theorem foreignIn_ofList (cs : List Char) :
    foreignIn (String.ofList cs) = cs.filter Speller.isForeign := by
  rw [foreignIn, String.toList_ofList]

theorem foreignIn_blank : foreignIn " " = [] := by decide

@[simp] theorem foreignIn_openBrace : foreignIn "\x7b" = [] := by decide

@[simp] theorem foreignIn_closeBrace : foreignIn "\x7d" = [] := by decide

theorem foreignIn_applied {command : String} (h : IsAscii command) (text : String) :
    foreignIn (applied command text) = foreignIn text := by
  rw [applied, foreignIn_append, foreignIn_append, foreignIn_append, isAscii_iff.1 h,
    foreignIn_openBrace, foreignIn_closeBrace, List.nil_append, List.nil_append, List.append_nil]

theorem foreignIn_commandFragment {command : String} (h : IsAscii command) :
    foreignIn (Speller.commandFragment command) = [] := by
  rw [Speller.commandFragment, foreignIn_append, isAscii_iff.1 h, foreignIn_blank,
    List.append_nil]

theorem foreignIn_charFragment (c : Char) :
    foreignIn (Speller.charFragment c) = if Speller.isForeign c then [c] else [] := by
  rw [Speller.charFragment, foreignIn_ofList, List.filter_cons, List.filter_nil]

theorem foreignIn_textOf_cons (fragment : String) (stack : List String) :
    foreignIn (Action.textOf (fragment :: stack)) =
      foreignIn (Action.textOf stack) ++ foreignIn fragment := by
  rw [Action.textOf_cons, foreignIn_append]

/-! ### Fixed texts and wrappings -/

theorem isAscii_spellings :
    (quoteSpellings ++ dashSpellings).all (fun entry => (foreignIn entry.2).isEmpty) = true := by
  decide

theorem isAscii_fontStyles : fontStyles.all (fun style => (foreignIn style.2).isEmpty) = true := by
  decide

theorem isAscii_accentCommands :
    accentTags.all (fun entry => [AccentMode.text, .math, .auto].all fun mode =>
      (foreignIn (mode.command entry.2)).isEmpty) = true := by
  decide

/-- Accent commands are ASCII, in every mode. -/
theorem isAscii_command {mark tag : Char} (h : accentTag? mark = some tag) (mode : AccentMode) :
    IsAscii (mode.command tag) := by
  have hall := List.all_eq_true.1 isAscii_accentCommands (mark, tag) (mem_of_lookup h)
  have hmem : mode ∈ [AccentMode.text, .math, .auto] := by cases mode <;> decide
  exact isAscii_iff.2 (List.isEmpty_iff.1 (List.all_eq_true.1 hall mode hmem))

theorem mem_spellings_of_ligature? {s : Speller} {c : Char} {spelling : String}
    (h : s.ligature? c = some spelling) : (c, spelling) ∈ quoteSpellings ++ dashSpellings := by
  unfold Speller.ligature? at h
  rcases Option.or_eq_some_iff.1 h with h | ⟨_, h⟩
  · exact List.mem_append_left _ (mem_of_lookup (Option.ite_none_right_eq_some.1 h).2)
  · exact List.mem_append_right _ (mem_of_lookup (Option.ite_none_right_eq_some.1 h).2)

/-- The spelling of a quote or a dash is ASCII. -/
theorem foreignIn_of_ligature? {s : Speller} {c : Char} {spelling : String}
    (h : s.ligature? c = some spelling) : foreignIn spelling = [] :=
  List.isEmpty_iff.1
    (List.all_eq_true.1 isAscii_spellings (c, spelling) (mem_spellings_of_ligature? h))

theorem foreignIn_wrapStyles {styles : List (String × String)}
    (h : ∀ style ∈ styles, IsAscii style.2) (name : List Char) (body : String) :
    foreignIn (wrapStyles styles name body) = foreignIn body := by
  induction styles generalizing name body with
  | nil => rfl
  | cons style styles ih =>
    have htail := fun st hst => h st (List.mem_cons_of_mem style hst)
    rw [wrapStyles]
    split
    · rw [ih htail, foreignIn_applied (h style List.mem_cons_self)]
    · exact ih htail name body

theorem foreignIn_wrapFont (name body : String) : foreignIn (wrapFont name body) = foreignIn body :=
  foreignIn_wrapStyles (fun style hstyle =>
    isAscii_iff.2 (List.isEmpty_iff.1 (List.all_eq_true.1 isAscii_fontStyles style hstyle)))
    name.toList body

theorem foreignIn_variantForm (text : String) : foreignIn (variantForm text) = foreignIn text := by
  unfold variantForm
  split
  · rename_i rest hrest
    have hvar : foreignIn "\\var" = [] := by decide
    have hback : Speller.isForeign '\\' = false := by decide
    rw [foreignIn_append, hvar, foreignIn_ofList, List.nil_append, foreignIn, hrest,
      List.filter_cons_of_neg (by rw [hback]; exact Bool.false_ne_true)]
  · rfl

/-- **Wrappings keep the characters outside ASCII.** -/
theorem foreignIn_wrap {s : Speller} {wrap : String → String} (h : s.Wrapping wrap)
    (text : String) : foreignIn (wrap text) = foreignIn text := by
  have hsmall : foreignIn "\\scriptsize" = [] := by decide
  have hsuper : foreignIn "^" = [] := by decide
  have hsub : foreignIn "_" = [] := by decide
  cases h with
  | bare => rfl
  | font name => exact foreignIn_wrapFont name text
  | small =>
    rw [foreignIn_append, foreignIn_append, foreignIn_applied (isAscii_iff.2 hsmall),
      foreignIn_openBrace, foreignIn_closeBrace, List.nil_append, List.append_nil]
  | variant => exact foreignIn_variantForm text
  | super => exact foreignIn_applied (isAscii_iff.2 hsuper) text
  | sub => exact foreignIn_applied (isAscii_iff.2 hsub) text
  | accent hmark => exact foreignIn_applied (isAscii_command hmark _) text

theorem foreignIn_fractionText (above below : String) :
    foreignIn (Speller.fractionText above below) = foreignIn above ++ foreignIn below := by
  have hfront : foreignIn "\x7b\\sfrac\x7b" = [] := by decide
  have hbetween : foreignIn "\x7d\x7b" = [] := by decide
  have hback : foreignIn "\x7d\x7d" = [] := by decide
  simp only [Speller.fractionText, foreignIn_append, hfront, hbetween, hback, List.nil_append,
    List.append_nil]

end TexGlyph
