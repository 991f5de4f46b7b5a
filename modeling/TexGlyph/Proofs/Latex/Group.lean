import Mathlib.Data.List.Infix
import TexGlyph.Latex.Accent
import TexGlyph.Proofs.Latex.Token

/-!
# Groups

A list of tokens is `Balanced` if it closes the groups that it opens.  Whether the tokens of a text
are balanced cannot be told from its braces alone, because a backslash or a comment can hide a
brace.  In an `Unescaped` text none is hidden, so its tokens are balanced if its braces are
(`Grouped.balanced_scan`), and the texts for which both holds (`Grouped`) can be put together:
one after the other, in braces, and as arguments of commands.
-/

namespace TexGlyph

/-! ### Balanced lists -/

/-- Whether a list closes what it opens, and nothing before it is opened. -/
structure Balanced {α : Type} [BEq α] (opening closing : α) (l : List α) : Prop where
  /-- No prefix closes more than it opens. -/
  prefixes : ∀ front, front <+: l → front.count closing ≤ front.count opening
  /-- In total, as many are closed as are opened. -/
  total : l.count closing = l.count opening

namespace Balanced

variable {α : Type} [BEq α] {opening closing : α}

/-- After a balanced list, a prefix closes no more than what comes after the list lets it. -/
theorem count_prefix_append_le {l rest front : List α} {n : Nat}
    (h : Balanced opening closing l) (hfront : front <+: l ++ rest)
    (hrest : ∀ mid, mid <+: rest → mid.count closing ≤ mid.count opening + n) :
    front.count closing ≤ front.count opening + n := by
  obtain ⟨back, heq⟩ := hfront
  rcases List.append_eq_append_iff.1 heq with ⟨mid, rfl, -⟩ | ⟨mid, rfl, hmid⟩
  · exact Nat.le_add_right_of_le (h.prefixes front (List.prefix_append front mid))
  · have hle := hrest mid ⟨back, hmid.symm⟩
    rw [List.count_append, List.count_append, h.total]
    omega

theorem append {a b : List α} (ha : Balanced opening closing a)
    (hb : Balanced opening closing b) : Balanced opening closing (a ++ b) where
  prefixes _ hfront := ha.count_prefix_append_le (n := 0) hfront hb.prefixes
  total := by rw [List.count_append, List.count_append, ha.total, hb.total]

variable [LawfulBEq α]

theorem of_not_mem {l : List α} (hopening : opening ∉ l) (hclosing : closing ∉ l) :
    Balanced opening closing l where
  prefixes front hfront := by
    rw [List.count_eq_zero_of_not_mem fun hmem => hclosing (hfront.subset hmem)]
    exact Nat.zero_le _
  total := by rw [List.count_eq_zero_of_not_mem hopening, List.count_eq_zero_of_not_mem hclosing]

/-- A balanced list stays balanced between an opening and a closing element. -/
theorem enclosed {l : List α} (hne : opening ≠ closing) (h : Balanced opening closing l) :
    Balanced opening closing (opening :: (l ++ [closing])) where
  prefixes front hfront := by
    rcases List.prefix_cons_iff.1 hfront with rfl | ⟨inner, rfl, hinner⟩
    · rfl
    · rw [List.count_cons_of_ne hne, List.count_cons_self]
      refine h.count_prefix_append_le hinner fun mid hmid => ?_
      -- Only the one element can come after `l`.
      calc mid.count closing
        _ ≤ [closing].count closing := hmid.sublist.count_le closing
        _ = 1 := List.count_singleton_self
        _ ≤ mid.count opening + 1 := Nat.le_add_left 1 _
  total := by
    rw [List.count_cons_of_ne hne, List.count_cons_self, List.count_append, List.count_append,
      h.total, List.count_singleton_self, List.count_cons_of_ne hne.symm, List.count_nil,
      Nat.add_zero]

end Balanced

/-! ### Texts that hide no brace -/

/-- Whether the character is a backslash, a percent sign or a brace. -/
def isMarkup (c : Char) : Bool := c = '\\' || c = '%' || c = '\x7b' || c = '\x7d'

theorem isMarkup_eq_false_iff {c : Char} :
    isMarkup c = false ↔ c ≠ '\\' ∧ c ≠ '%' ∧ c ≠ '\x7b' ∧ c ≠ '\x7d' := by
  simp only [isMarkup, Bool.or_eq_false_iff, decide_eq_false_iff_not, and_assoc, ne_eq]

/-- A property that no character of markup has is had by characters that are none. -/
theorem isMarkup_eq_false_of {p : Char → Bool}
    (hp : ['\\', '%', '\x7b', '\x7d'].all (!p ·) = true) {c : Char} (h : p c = true) :
    isMarkup c = false := by
  rw [isMarkup_eq_false_iff]
  refine ⟨?_, ?_, ?_, ?_⟩
  all_goals
    rintro rfl
    simp [h] at hp

theorem isMarkup_of_isText {c : Char} (h : Category.isText c = true) : isMarkup c = false :=
  isMarkup_eq_false_of (by decide) h

/-- Whether no brace of a text is part of a control sequence or of a comment, whatever comes after
the text. -/
def Unescaped : List Char → Prop
  | [] => True
  | c :: cs => c ≠ '%' ∧ (c = '\\' → ∃ d ∈ cs.head?, isMarkup d = false) ∧ Unescaped cs

namespace Unescaped

theorem append {a b : List Char} (ha : Unescaped a) (hb : Unescaped b) : Unescaped (a ++ b) := by
  induction a with
  | nil => exact hb
  | cons c cs ih =>
    obtain ⟨hcomment, hescape, hrest⟩ := ha
    refine ⟨hcomment, fun hc => ?_, ih hrest⟩
    obtain ⟨d, hd, hmarkup⟩ := hescape hc
    refine ⟨d, ?_, hmarkup⟩
    show d ∈ (cs ++ b).head?
    rw [List.head?_append, Option.mem_def.1 hd]
    rfl

theorem of_append {a b : List Char} (h : Unescaped (a ++ b)) : Unescaped b := by
  induction a with
  | nil => exact h
  | cons c cs ih => exact ih h.2.2

theorem of_all {cs : List Char} (h : ∀ c ∈ cs, isMarkup c = false) : Unescaped cs := by
  induction cs with
  | nil => trivial
  | cons c cs ih =>
    obtain ⟨hescape, hcomment, -⟩ := isMarkup_eq_false_iff.1 (h c List.mem_cons_self)
    exact ⟨hcomment, fun hc => absurd hc hescape, ih fun x hx => h x (List.mem_cons_of_mem c hx)⟩

end Unescaped

/-- A text without markup has no braces. -/
theorem braces_not_mem {cs : List Char} (h : ∀ c ∈ cs, isMarkup c = false) :
    '\x7b' ∉ cs ∧ '\x7d' ∉ cs :=
  ⟨fun hmem => absurd (h _ hmem) (by decide), fun hmem => absurd (h _ hmem) (by decide)⟩

theorem count_braces_eq_zero {cs : List Char} (h : ∀ c ∈ cs, isMarkup c = false) :
    cs.count '\x7b' = 0 ∧ cs.count '\x7d' = 0 :=
  ⟨List.count_eq_zero_of_not_mem (braces_not_mem h).1,
    List.count_eq_zero_of_not_mem (braces_not_mem h).2⟩

namespace Token

/-- In front of a text that hides no brace, a token has braces only if it delimits a group. -/
theorem count_source {t : Token} {rest : List Char} (ht : t.Ends rest.head?)
    (h : Unescaped (t.source ++ rest)) :
    t.source.count '\x7b' = [t].count beginGroup ∧ t.source.count '\x7d' = [t].count endGroup := by
  generalize hnext : rest.head? = next at ht
  cases ht with
  | beginGroup | endGroup => decide
  | word hne hname =>
    have hplain := count_braces_eq_zero fun c hc =>
      isMarkup_of_isText (Category.isText_of_isLetter (hname c hc))
    simpa [source] using hplain
  | @symbol d =>
    -- What the backslash stands before is no brace.
    obtain ⟨x, hx, hmarkup⟩ := h.2.1 rfl
    obtain rfl : d = x := by simpa [source] using hx
    have hplain : [d].count '\x7b' = 0 ∧ [d].count '\x7d' = 0 :=
      count_braces_eq_zero (by simpa using hmarkup)
    simpa [source] using hplain
  | bare => decide
  | comment => exact absurd rfl h.1
  | active hc => rcases hc with rfl | rfl | rfl <;> decide
  | text hne hrun =>
    have hplain := count_braces_eq_zero fun c hc => isMarkup_of_isText (hrun c hc)
    simpa [source] using hplain

/-- In a text that hides no brace, tokens have braces only if they delimit groups. -/
theorem count_source_of_mem_scan {cs : List Char} (h : Unescaped cs) :
    ∀ t ∈ scan cs, t.source.count '\x7b' = [t].count beginGroup ∧
      t.source.count '\x7d' = [t].count endGroup := by
  induction cs using scanInduction with
  | nil => simp [scan]
  | token t rest ht ih =>
    rw [scan_source_append ht]
    intro t' ht'
    rcases List.mem_cons.1 ht' with rfl | ht'
    · exact count_source ht h
    · exact ih h.of_append t' ht'

/-- Tokens that have braces only if they delimit groups have as many braces as delimiters. -/
theorem count_flatMap_source {ts : List Token}
    (h : ∀ t ∈ ts, t.source.count '\x7b' = [t].count beginGroup ∧
      t.source.count '\x7d' = [t].count endGroup) :
    (ts.flatMap source).count '\x7b' = ts.count beginGroup ∧
      (ts.flatMap source).count '\x7d' = ts.count endGroup := by
  induction ts with
  | nil => exact ⟨rfl, rfl⟩
  | cons t ts ih =>
    obtain ⟨hopening, hclosing⟩ := h t List.mem_cons_self
    obtain ⟨ihopening, ihclosing⟩ := ih fun x hx => h x (List.mem_cons_of_mem t hx)
    rw [List.flatMap_cons, List.count_append, List.count_append, hopening, hclosing, ihopening,
      ihclosing, ← List.count_append, ← List.count_append]
    exact ⟨rfl, rfl⟩

end Token

/-! ### Grouped texts -/

/-- Whether a text hides no brace and its braces are balanced. -/
structure Grouped (cs : List Char) : Prop where
  /-- No brace is hidden. -/
  unescaped : Unescaped cs
  /-- The braces are balanced. -/
  balanced : Balanced '\x7b' '\x7d' cs

namespace Grouped

/-- **The tokens of a grouped text are balanced.** -/
theorem balanced_scan {cs : List Char} (h : Grouped cs) :
    Balanced .beginGroup .endGroup (Token.scan cs) := by
  have hcount := Token.count_source_of_mem_scan h.unescaped
  constructor
  · rintro front ⟨back, heq⟩
    -- The tokens in front make up a prefix of the text with the same braces.
    have hprefix : front.flatMap Token.source <+: cs := by
      refine ⟨back.flatMap Token.source, ?_⟩
      rw [← List.flatMap_append, heq, Token.flatMap_source_scan]
    have hfront := Token.count_flatMap_source fun t ht =>
      hcount t (heq ▸ List.mem_append_left back ht)
    rw [← hfront.1, ← hfront.2]
    exact h.balanced.prefixes _ hprefix
  · have hall := Token.count_flatMap_source hcount
    rw [Token.flatMap_source_scan] at hall
    rw [← hall.1, ← hall.2]
    exact h.balanced.total

theorem append {a b : List Char} (ha : Grouped a) (hb : Grouped b) : Grouped (a ++ b) :=
  ⟨ha.unescaped.append hb.unescaped, ha.balanced.append hb.balanced⟩

theorem of_all {cs : List Char} (h : ∀ c ∈ cs, isMarkup c = false) : Grouped cs where
  unescaped := .of_all h
  balanced := .of_not_mem (braces_not_mem h).1 (braces_not_mem h).2

/-- A text is grouped if it can be seen that it has no markup in it. -/
theorem of_plain {text : String} (h : text.toList.all (!isMarkup ·) = true) :
    Grouped text.toList :=
  .of_all fun c hc => by simpa using List.all_eq_true.1 h c hc

/-- A grouped text in braces is grouped. -/
theorem enclosed {cs : List Char} (h : Grouped cs) : Grouped ('\x7b' :: (cs ++ ['\x7d'])) where
  unescaped := by
    refine ⟨by decide, fun hc => absurd hc (by decide), h.unescaped.append ?_⟩
    exact ⟨by decide, fun hc => absurd hc (by decide), trivial⟩
  balanced := h.balanced.enclosed (by decide)

/-- A backslash in front of a grouped text keeps it grouped, if it does not start with markup. -/
theorem escape {d : Char} {cs : List Char} (hd : isMarkup d = false) (h : Grouped (d :: cs)) :
    Grouped ('\\' :: d :: cs) where
  unescaped := ⟨by decide, fun _ => ⟨d, rfl, hd⟩, h.unescaped⟩
  balanced := (Balanced.of_not_mem (by decide) (by decide) : Balanced _ _ ['\\']).append h.balanced

/-- Without a backslash in front of it, a grouped text is grouped. -/
theorem of_escape {cs : List Char} (h : Grouped ('\\' :: cs)) : Grouped cs where
  unescaped := h.unescaped.2.2
  balanced := by
    have hcount : ∀ l : List Char, ('\\' :: l).count '\x7b' = l.count '\x7b' ∧
        ('\\' :: l).count '\x7d' = l.count '\x7d' :=
      fun l => ⟨List.count_cons_of_ne (by decide), List.count_cons_of_ne (by decide)⟩
    constructor
    · intro front hfront
      rw [← (hcount front).1, ← (hcount front).2]
      exact h.balanced.prefixes _ (List.cons_prefix_cons.2 ⟨rfl, hfront⟩)
    · rw [← (hcount cs).1, ← (hcount cs).2]
      exact h.balanced.total

/-- A control sequence is grouped, if its name has no markup in it. -/
theorem control {name : List Char} (hne : name ≠ []) (h : ∀ c ∈ name, isMarkup c = false) :
    Grouped ('\\' :: name) := by
  obtain ⟨d, ds, rfl⟩ := List.exists_cons_of_ne_nil hne
  exact .escape (h d List.mem_cons_self) (.of_all h)

/-- A grouped text is grouped as the argument of a grouped command. -/
theorem applied {command text : String} (hcommand : Grouped command.toList)
    (htext : Grouped text.toList) : Grouped (applied command text).toList := by
  rw [TexGlyph.applied, String.toList_append, String.toList_append, String.toList_append,
    List.append_assoc, List.append_assoc]
  exact hcommand.append htext.enclosed

end Grouped

end TexGlyph
