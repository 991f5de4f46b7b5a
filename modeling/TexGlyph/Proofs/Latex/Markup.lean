import TexGlyph.Proofs.Latex.Substitution

/-!
# Markup around replacements

The tokens of a text other than plain text are its markup.  A substitution keeps the markup that it
does not replace, if what it puts in the place of a token is read as plain text and runs into no
token before it: this takes texts of plain characters that are not empty and do not begin with a
letter, which a control word would go on with (`markup_replaced_of_isText`).  The induction is along
the tokens of the source; a token that stays ends where it ended (`ends_replaced`), as whatever
follows it has the same kind of first character as before.

Nothing less will do.  Every character that is not plain text stands in some token of the markup, so
the markup tells how many there are (`markupSize_flatMap_markup`), and texts with such characters
would make more of them (`markupSize_replaced`).  Together this says exactly when markup is kept
(`markup_replaced_iff`).
-/

namespace TexGlyph

open Category

/-! ### Markup -/

namespace Token

/-- Whether a token is anything but plain text. -/
def isMarkup : Token → Bool
  | text _ => false
  | _ => true

/-- The markup of a text: its control sequences, comments, braces and active characters, in
order. -/
def markup (cs : List Char) : List Token := (scan cs).filter isMarkup

theorem markup_nil : markup [] = [] := by
  rw [markup, scan]
  rfl

/-- A token of the markup in front of a text that it ends at comes first in the markup. -/
theorem markup_source_append {t : Token} {rest : List Char} (h : t.Ends rest.head?)
    (ht : t.isMarkup = true) : markup (t.source ++ rest) = t :: markup rest := by
  rw [markup, scan_source_append h, List.filter_cons_of_pos ht]
  rfl

/-- Any other token is made of plain characters. -/
theorem Ends.isText_of_mem_source {t : Token} {next : Option Char} (h : t.Ends next)
    (ht : t.isMarkup = false) : ∀ c ∈ t.source, isText c = true := by
  cases h with
  | text hne hrun => rwa [source, String.toList_ofList]
  | _ => cases ht

/-- Plain text in front of a text adds nothing to the markup, whether or not the text goes on with
plain text. -/
theorem markup_append_of_isText {run : List Char} (hrun : ∀ c ∈ run, isText c = true)
    (rest : List Char) : markup (run ++ rest) = markup rest := by
  -- A run is one token only together with the plain text after it, so that is taken along.
  have hplain : ∀ front : List Char, (∀ c ∈ front, isText c = true) →
      markup (front ++ rest.dropWhile isText) = markup (rest.dropWhile isText) := by
    intro front hfront
    by_cases hnil : front = []
    · rw [hnil, List.nil_append]
    · have hends : (text (String.ofList front)).Ends (rest.dropWhile isText).head? :=
        .text hnil hfront fun _ => of_mem_head?_dropWhile
      have hscan := scan_source_append hends
      rw [source, String.toList_ofList] at hscan
      rw [markup, hscan, List.filter_cons_of_neg Bool.false_ne_true]
      rfl
  have hmore : ∀ c ∈ rest.takeWhile isText, isText c = true := fun _ => List.mem_takeWhile_imp
  have hlong : ∀ c ∈ run ++ rest.takeWhile isText, isText c = true := by
    intro c hc
    rcases List.mem_append.1 hc with hc | hc
    · exact hrun c hc
    · exact hmore c hc
  calc markup (run ++ rest)
      = markup ((run ++ rest.takeWhile isText) ++ rest.dropWhile isText) := by
        rw [List.append_assoc, List.takeWhile_append_dropWhile]
    _ = markup (rest.takeWhile isText ++ rest.dropWhile isText) := by
        rw [hplain _ hlong, hplain _ hmore]
    _ = markup rest := by rw [List.takeWhile_append_dropWhile]

/-! ### Counting the characters of markup -/

/-- The number of characters that are not plain text. -/
def markupSize (cs : List Char) : Nat := cs.countP (!isText ·)

theorem markupSize_append (cs ds : List Char) :
    markupSize (cs ++ ds) = markupSize cs + markupSize ds :=
  List.countP_append

theorem markupSize_eq_zero_iff {cs : List Char} :
    markupSize cs = 0 ↔ ∀ c ∈ cs, isText c = true := by
  simp [markupSize]

/-- **The markup of a text has all of its characters that are not plain text.** -/
theorem markupSize_flatMap_markup (cs : List Char) :
    markupSize ((markup cs).flatMap source) = markupSize cs := by
  induction cs using scanInduction with
  | nil =>
    rw [markup_nil]
    rfl
  | token t rest ht ih =>
    rw [markupSize_append, ← ih]
    cases hmarkup : t.isMarkup with
    | true => rw [markup_source_append ht hmarkup, List.flatMap_cons, markupSize_append]
    | false =>
      have htext := ht.isText_of_mem_source hmarkup
      rw [markupSize_eq_zero_iff.2 htext, markup_append_of_isText htext, Nat.zero_add]

end Token

/-! ### Replacements -/

namespace Substitution

open Token

variable (s : Substitution)

/-- The markup of a source that is not replaced. -/
def keptMarkup (cs : List Char) : List Token :=
  (scan cs).filter fun t => t.isMarkup && (s.replacement? t).isNone

/-- The replacements that take place in a source, in order. -/
def used (cs : List Char) : List Replacement := (scan cs).filterMap s.replacement?

/-- A replacement that takes place has the text of its key. -/
theorem getElem?_of_mem_used {cs : List Char} {r : Replacement} (h : r ∈ s.used cs) :
    s.replacements[r.key]? = some r.text := by
  obtain ⟨t, _, hr⟩ := List.mem_filterMap.1 h
  obtain ⟨key, _, hr⟩ := Option.bind_eq_some_iff.1 hr
  obtain ⟨text, htext, rfl⟩ := Option.map_eq_some_iff.1 hr
  exact htext

/-- What a substitution does with the first token of a source. -/
inductive Front (t : Token) (rest : List Char) : Prop where
  /-- Plain text stays. -/
  | plain (htext : ∀ c ∈ t.source, isText c = true)
      (replaced : s.replaced (t.source ++ rest) = t.source ++ s.replaced rest)
      (kept : s.keptMarkup (t.source ++ rest) = s.keptMarkup rest)
      (used : s.used (t.source ++ rest) = s.used rest)
  /-- Markup without a replacement stays. -/
  | kept (hmarkup : t.isMarkup = true)
      (replaced : s.replaced (t.source ++ rest) = t.source ++ s.replaced rest)
      (kept : s.keptMarkup (t.source ++ rest) = t :: s.keptMarkup rest)
      (used : s.used (t.source ++ rest) = s.used rest)
  /-- Markup with a replacement is replaced. -/
  | replaced (r : Replacement)
      (replaced : s.replaced (t.source ++ rest) = r.text.toList ++ s.replaced rest)
      (kept : s.keptMarkup (t.source ++ rest) = s.keptMarkup rest)
      (used : s.used (t.source ++ rest) = r :: s.used rest)

variable {s}

/-- **The first token of a source is plain text, stays or is replaced.** -/
theorem front {t : Token} {rest : List Char} (h : t.Ends rest.head?) : s.Front t rest := by
  have hreplaced := replaced_source_append (s := s) h
  have hkept : s.keptMarkup (t.source ++ rest) =
      (t :: scan rest).filter fun t => t.isMarkup && (s.replacement? t).isNone := by
    rw [keptMarkup, scan_source_append h]
  have hused : s.used (t.source ++ rest) = (t :: scan rest).filterMap s.replacement? := by
    rw [used, scan_source_append h]
  -- A replacement is looked up first; what has none is kept as markup or is plain text.
  cases hr : s.replacement? t with
  | some r =>
    rw [textOf, hr] at hreplaced
    refine .replaced r hreplaced ?_ ?_
    · rw [hkept, List.filter_cons_of_neg (by simp [hr])]
      rfl
    · rw [hused, List.filterMap_cons_some hr]
      rfl
  | none =>
    rw [textOf, hr, String.toList_ofList] at hreplaced
    have hnone : s.used (t.source ++ rest) = s.used rest := by
      rw [hused, List.filterMap_cons_none hr]
      rfl
    cases hmarkup : t.isMarkup with
    | true =>
      refine .kept hmarkup hreplaced ?_ hnone
      rw [hkept, List.filter_cons_of_pos (by simp [hr, hmarkup])]
      rfl
    | false =>
      refine .plain (h.isText_of_mem_source hmarkup) hreplaced ?_ hnone
      rw [hkept, List.filter_cons_of_neg (by simp [hmarkup])]
      rfl

/-- Where nothing is replaced, a source stays as it is. -/
theorem replaced_of_used_eq_nil {cs : List Char} (h : s.used cs = []) : s.replaced cs = cs := by
  induction cs using scanInduction with
  | nil => exact replaced_nil
  | token t rest ht ih =>
    cases front (s := s) ht with
    | plain _ hreplaced _ hused => rw [hreplaced, ih (hused ▸ h)]
    | kept _ hreplaced _ hused => rw [hreplaced, ih (hused ▸ h)]
    | replaced r _ _ hused =>
      rw [hused] at h
      cases h

/-- The characters of the markup that comes out are those of the markup that is kept and those that
the replacements bring in. -/
theorem markupSize_replaced (cs : List Char) :
    markupSize (s.replaced cs) =
      markupSize ((s.keptMarkup cs).flatMap source) +
        markupSize ((s.used cs).flatMap fun r => r.text.toList) := by
  induction cs using scanInduction with
  | nil =>
    rw [replaced_nil, keptMarkup, used, scan]
    rfl
  | token t rest ht ih =>
    cases front (s := s) ht with
    | plain htext hreplaced hkept hused =>
      rw [hreplaced, hkept, hused, markupSize_append, ih, markupSize_eq_zero_iff.2 htext,
        Nat.zero_add]
    | kept _ hreplaced hkept hused =>
      rw [hreplaced, hkept, hused, markupSize_append, ih, List.flatMap_cons, markupSize_append,
        Nat.add_assoc]
    | replaced r hreplaced hkept hused =>
      rw [hreplaced, hkept, hused, markupSize_append, ih, List.flatMap_cons, markupSize_append]
      omega

/-- Whether a text has a first character that a control word does not go on with. -/
def BeginsApart (text : String) : Prop := ∃ c ∈ text.toList.head?, isLetter c = false

/-- A source that does not begin with a letter turns into one that does not. -/
theorem isLetter_head?_replaced {rest : List Char} (h : ∀ r ∈ s.used rest, BeginsApart r.text)
    (hrest : ∀ c ∈ rest.head?, isLetter c = false) :
    ∀ c ∈ (s.replaced rest).head?, isLetter c = false := by
  by_cases hnil : rest = []
  · rwa [hnil, replaced_nil, ← hnil]
  · obtain ⟨t, later, rfl, ht⟩ := exists_ends hnil
    rw [ht.head?_source_append] at hrest
    cases front (s := s) ht with
    | plain _ hreplaced => rwa [hreplaced, ht.head?_source_append]
    | kept _ hreplaced => rwa [hreplaced, ht.head?_source_append]
    | replaced r hreplaced _ hused =>
      obtain ⟨x, hx, hletter⟩ := h r (by rw [hused]; exact List.mem_cons_self)
      intro c hc
      rw [hreplaced, List.head?_append, Option.mem_def.1 hx] at hc
      obtain rfl : x = c := Option.some.inj hc
      exact hletter

/-- **Markup ends where it ended**, whatever is replaced in the text after it. -/
theorem ends_replaced {t : Token} {rest : List Char} (ht : t.Ends rest.head?)
    (hmarkup : t.isMarkup = true) (h : ∀ r ∈ s.used rest, BeginsApart r.text) :
    t.Ends (s.replaced rest).head? := by
  generalize hnext : rest.head? = next at ht
  cases ht with
  | word hne hname hend => exact .word hne hname (isLetter_head?_replaced h (hnext ▸ hend))
  | symbol hc => exact .symbol hc
  | bare =>
    rw [List.head?_eq_none_iff.1 hnext, replaced_nil]
    exact .bare
  | comment hwords hend =>
    refine .comment hwords fun c hc => ?_
    -- A comment ends with its line, and the line break is plain text, which stays.
    cases rest with
    | nil =>
      rw [replaced_nil] at hc
      cases hc
    | cons d rest =>
      have hbreak : isLineBreak d = true := hend d (by rw [← hnext]; rfl)
      rw [replaced_cons_of_isText (isText_of_isLineBreak hbreak)] at hc
      obtain rfl : d = c := Option.some.inj hc
      exact hbreak
  | beginGroup => exact .beginGroup
  | endGroup => exact .endGroup
  | active hc => exact .active hc
  | text => cases hmarkup

/-- Markup that is not replaced is kept, if all that is put in are plain characters. -/
theorem markup_replaced_of_isText {cs : List Char} (h : ∀ r ∈ s.used cs, BeginsApart r.text)
    (htext : ∀ r ∈ s.used cs, ∀ c ∈ r.text.toList, isText c = true) :
    markup (s.replaced cs) = s.keptMarkup cs := by
  induction cs using scanInduction with
  | nil =>
    rw [replaced_nil, keptMarkup, markup]
    simp only [scan, List.filter_nil]
  | token t rest ht ih =>
    -- Kept markup is read again as one token, since what follows cannot go on with it.
    cases front (s := s) ht with
    | plain hplain hreplaced hkept hused =>
      rw [hused] at h htext
      rw [hreplaced, hkept, markup_append_of_isText hplain, ih h htext]
    | kept hmarkup hreplaced hkept hused =>
      rw [hused] at h htext
      rw [hreplaced, hkept, markup_source_append (ends_replaced ht hmarkup h) hmarkup, ih h htext]
    | replaced r hreplaced hkept hused =>
      rw [hused] at h htext
      obtain ⟨_, hrest⟩ := List.forall_mem_cons.1 h
      obtain ⟨hr, htext⟩ := List.forall_mem_cons.1 htext
      rw [hreplaced, hkept, markup_append_of_isText hr, ih hrest htext]

/-- **When markup is kept**: where no text that is put in could go on with a control word, the
markup that is not replaced comes out as it went in exactly if all that is put in are plain
characters. -/
theorem markup_replaced_iff {cs : List Char} (h : ∀ r ∈ s.used cs, BeginsApart r.text) :
    markup (s.replaced cs) = s.keptMarkup cs ↔
      ∀ r ∈ s.used cs, ∀ c ∈ r.text.toList, isText c = true := by
  refine ⟨fun hsame r hr => ?_, markup_replaced_of_isText h⟩
  -- Both sides have the same characters, so the replacements brought in none that are not plain.
  have hsize := markupSize_replaced (s := s) cs
  rw [← markupSize_flatMap_markup, hsame] at hsize
  have hzero : markupSize ((s.used cs).flatMap fun r => r.text.toList) = 0 := by omega
  intro c hc
  exact markupSize_eq_zero_iff.1 hzero c (List.mem_flatMap.2 ⟨r, hr, hc⟩)

end Substitution

end TexGlyph
