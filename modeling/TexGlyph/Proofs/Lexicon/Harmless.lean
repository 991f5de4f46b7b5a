import Mathlib.Data.List.Basic
import TexGlyph.Proofs.Latex.Markup
import TexGlyph.Proofs.Lexicon.Meaning
import TexGlyph.Proofs.Lexicon.Table

/-!
# Replacing once is enough

Texts of plain characters that do not begin with a letter (`Substitution.IsHarmless`) are put in
without touching the tokens around them, so what comes out has the markup of the source that had no
replacement, and nothing else (`markup_replaced_of_isText`).  Keys only belong to markup, so a
second pass finds nothing to replace (`Substitution.used_replaced`), and comments are markup that has
no key, so all of them come out again (`Substitution.comments_replaced`).  The Greek letters are such
texts, whatever definitions the lexicon is built from (`Lexicon.isHarmless_greek`).
-/

namespace TexGlyph

open Category

/-! ### What is read off markup -/

namespace Token

/-- The words of a comment. -/
def comment? : Token → Option String
  | comment words => some words
  | _ => none

/-- The comments of a text, in order. -/
def comments (cs : List Char) : List String := (scan cs).filterMap comment?

/-- What plain text has none of is read off the markup of a text. -/
theorem filterMap_markup {β : Type} {f : Token → Option β}
    (hf : ∀ t : Token, t.isMarkup = false → f t = none) (cs : List Char) :
    (markup cs).filterMap f = (scan cs).filterMap f := by
  rw [markup, List.filterMap_filter]
  refine List.filterMap_congr fun t _ => ?_
  cases hmarkup : t.isMarkup with
  | true => rfl
  | false => exact (hf t hmarkup).symm

/-- Plain text has no key. -/
theorem key?_eq_none_of_isMarkup {t : Token} (h : t.isMarkup = false) : t.key? = none := by
  cases t with
  | text run => rfl
  | _ => cases h

/-- Plain text is no comment. -/
theorem comment?_eq_none_of_isMarkup {t : Token} (h : t.isMarkup = false) : t.comment? = none := by
  cases t with
  | text run => rfl
  | _ => cases h

/-- Comments have no key. -/
theorem key?_eq_none_of_comment? {t : Token} {words : String} (h : t.comment? = some words) :
    t.key? = none := by
  cases t with
  | comment words => rfl
  | _ => cases h

end Token

namespace Substitution

open Token

/-- Whether a text can be put in anywhere: it is not empty, does not begin with a letter, and has
none of the characters that begin a token. -/
structure IsHarmlessText (text : String) : Prop where
  /-- There is something in it. -/
  ne_empty : text ≠ ""
  /-- No control word goes on with it. -/
  head : ∀ c ∈ text.toList.head?, isLetter c = false
  /-- It has no markup. -/
  plain : ∀ c ∈ text.toList, c ∉ ['\\', '%', '\x7b', '\x7d', '$', '&', '~']

/-- Whether all texts that a substitution puts in can be put in anywhere. -/
def IsHarmless (s : Substitution) : Prop :=
  ∀ key text : String, s.replacements[key]? = some text → IsHarmlessText text

/-! ### Harmless texts -/

theorem IsHarmlessText.isText {text : String} (h : IsHarmlessText text) :
    ∀ c ∈ text.toList, Category.isText c = true := by
  intro c hc
  by_contra hbare
  have hplain := h.plain c hc
  rw [Bool.not_eq_true, isText_eq_false_iff] at hbare
  simp only [List.mem_cons, List.not_mem_nil, or_false] at hplain
  exact hplain hbare

theorem IsHarmlessText.beginsApart {text : String} (h : IsHarmlessText text) :
    BeginsApart text := by
  have hne : text.toList ≠ [] := fun hnil => h.ne_empty (String.toList_inj.1 hnil)
  obtain ⟨c, cs, hcs⟩ := List.exists_cons_of_ne_nil hne
  have hc : c ∈ text.toList.head? := by rw [hcs]; rfl
  exact ⟨c, hc, h.head c hc⟩

/-- One plain character that is no letter can be put in anywhere. -/
theorem IsHarmlessText.singleton {c : Char} (htext : Category.isText c = true)
    (hletter : isLetter c = false) : IsHarmlessText (String.ofList [c]) where
  ne_empty := by
    rw [Ne, ← String.toList_inj, String.toList_ofList]
    exact List.cons_ne_nil c []
  head := by
    rw [String.toList_ofList]
    intro d hd
    rwa [← Option.some.inj hd]
  plain := by
    rw [String.toList_ofList]
    intro d hd hbare
    rw [List.mem_singleton.1 hd] at hbare
    simp only [List.mem_cons, List.not_mem_nil, or_false] at hbare
    rw [isText_eq_false_iff.2 hbare] at htext
    cases htext

variable {s : Substitution}

theorem IsHarmless.of_mem_used (hs : s.IsHarmless) {cs : List Char} {r : Replacement}
    (h : r ∈ s.used cs) : IsHarmlessText r.text :=
  hs r.key r.text (getElem?_of_mem_used s h)

/-- The markup that comes out is the markup without a replacement. -/
theorem IsHarmless.markup_replaced (hs : s.IsHarmless) (cs : List Char) :
    markup (s.replaced cs) = s.keptMarkup cs :=
  markup_replaced_of_isText (fun _ hr => (hs.of_mem_used hr).beginsApart)
    fun _ hr => (hs.of_mem_used hr).isText

/-! ### The second pass -/

/-- **In what comes out nothing is left to replace.** -/
theorem used_replaced (hs : s.IsHarmless) (cs : List Char) : s.used (s.replaced cs) = [] := by
  have hplain : ∀ t : Token, t.isMarkup = false → s.replacement? t = none := by
    intro t ht
    rw [replacement?, key?_eq_none_of_isMarkup ht, Option.bind_none]
  -- Only markup can be replaced, and the markup that comes out is what was not replaced before.
  rw [used, ← filterMap_markup hplain, hs.markup_replaced, List.filterMap_eq_nil_iff]
  intro t ht
  obtain ⟨-, hkept⟩ := List.mem_filter.1 ht
  rw [Bool.and_eq_true, Option.isNone_iff_eq_none] at hkept
  exact hkept.2

/-- **Comments come out as they went in.** -/
theorem comments_replaced (hs : s.IsHarmless) (cs : List Char) :
    comments (s.replaced cs) = comments cs := by
  have hplain : ∀ t : Token, t.isMarkup = false → t.comment? = none :=
    fun _ => comment?_eq_none_of_isMarkup
  rw [comments, ← filterMap_markup hplain, hs.markup_replaced, keptMarkup, List.filterMap_filter]
  refine List.filterMap_congr fun t _ => ?_
  cases hcomment : t.comment? with
  | none => rw [ite_self]
  | some words =>
    -- A comment is no control, so it has no key to be looked up by.
    have hnone : s.replacement? t = none := by
      rw [replacement?, key?_eq_none_of_comment? hcomment, Option.bind_none]
    have hmarkup : t.isMarkup = true := by
      cases hmarkup : t.isMarkup with
      | true => rfl
      | false =>
        rw [hplain t hmarkup] at hcomment
        cases hcomment
    rw [hmarkup, hnone]
    rfl

end Substitution

/-! ### Greek letters -/

namespace Lexicon

open Substitution

/-- The Greek letters of the preset are plain characters and no letters of ASCII. -/
theorem all_greek_harmless :
    Preset.usual.greek.all (fun entry => isText entry.2 && !isLetter entry.2) = true := by
  decide +kernel

/-- **Greek letters can be put in anywhere**, whatever definitions there are. -/
theorem isHarmless_greek (sources : List Definitions) :
    (Substitution.ofLexicon (build .usual sources) false true).IsHarmless := by
  intro key text htext
  have hgreek : Substitution.ofLexicon (build .usual sources) false true =
      Substitution.withTable {} (build .usual sources).greekReplacements := rfl
  rw [hgreek, getElem?_withTable_greekReplacements, Std.ExtTreeMap.getElem?_empty, Option.or_none,
    Option.map_eq_some_iff] at htext
  obtain ⟨c, hc, rfl⟩ := htext
  have hletter := List.all_eq_true.1 all_greek_harmless _ (mem_greek_of_build hc)
  rw [Bool.and_eq_true, Bool.not_eq_true'] at hletter
  exact .singleton hletter.1 hletter.2

end Lexicon

/-! ### Sources -/

namespace Substitution

/-- **Replacing harmless texts once is enough**: nothing is left to replace, so a second pass changes
nothing, and the comments of the source come out as they went in.  The Greek letters are such texts.
-/
theorem convert_harmless :
    (∀ s : Substitution, s.IsHarmless → ∀ source : String,
      s.convert (s.convert source) = s.convert source ∧ s.log (s.convert source) = [] ∧
        Token.comments (s.convert source).toList = Token.comments source.toList) ∧
      ∀ sources : List Definitions,
        (ofLexicon (Lexicon.build .usual sources) false true).IsHarmless := by
  refine ⟨fun s hs source => ?_, Lexicon.isHarmless_greek⟩
  have hlog : s.used (s.convert source).toList = [] := by
    rw [toList_convert]
    exact used_replaced hs source.toList
  refine ⟨?_, hlog, ?_⟩
  · rw [← String.toList_inj, toList_convert]
    exact replaced_of_used_eq_nil hlog
  · rw [toList_convert]
    exact comments_replaced hs source.toList

/-- A substitution for one letter. -/
def alphaOnly : Substitution := ({} : Substitution).withReplacement "\\alpha" "α"

/-- The letter comes out between commands that are not replaced, and the comment is kept. -/
theorem convert_harmless_alpha :
    alphaOnly.convert "\\foo\\alpha\\alpha b~% \\alpha\r\\alpha\\" =
        "\\fooαα b~% \\alpha\rα\\" ∧
      alphaOnly.convert "\\fooαα b~% \\alpha\rα\\" = "\\fooαα b~% \\alpha\rα\\" ∧
      Token.comments "\\fooαα b~% \\alpha\rα\\".toList = [" \\alpha"] := by
  have halpha : IsHarmlessText "α" := .singleton (c := 'α') (by decide) (by decide)
  have hharmless : alphaOnly.IsHarmless := by
    intro key text htext
    rw [alphaOnly, withReplacement, Std.ExtTreeMap.getElem?_insert] at htext
    split at htext
    · obtain rfl := Option.some.inj htext
      exact halpha
    · rw [Std.ExtTreeMap.getElem?_empty] at htext
      cases htext
  have hout : alphaOnly.convert "\\foo\\alpha\\alpha b~% \\alpha\r\\alpha\\" =
      "\\fooαα b~% \\alpha\rα\\" := by
    decide +kernel
  have hcomments : Token.comments "\\foo\\alpha\\alpha b~% \\alpha\r\\alpha\\".toList =
      [" \\alpha"] := by
    decide +kernel
  obtain ⟨htwice, -, hkept⟩ := convert_harmless.1 alphaOnly hharmless
    "\\foo\\alpha\\alpha b~% \\alpha\r\\alpha\\"
  rw [hout] at htwice hkept
  exact ⟨hout, htwice, hkept.trans hcomments⟩

-- A text that begins with a letter goes on with the command in front of it, which may be a key then.
example :
    let s := (({} : Substitution).withReplacement "\\alpha" "α").withReplacement "\\a" "ha"
    s.convert "\\alp\\a" = "\\alpha" ∧ s.convert "\\alpha" = "α" := by
  decide +kernel

end Substitution

end TexGlyph
