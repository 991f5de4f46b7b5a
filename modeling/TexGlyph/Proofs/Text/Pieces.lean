import Mathlib.Data.List.Infix
import TexGlyph.Text.Blank

/-!
# Where a text is cut

`cutAt` cuts a text at its separators.  What stands between two of them is cut by itself, whatever
is in front and behind (`exists_cutAt_eq`): so when a part of a text is taken out between two
separators, its pieces go, one empty piece takes their place, and all others stay.  A text that is
made of some neighbouring pieces of another text occurs in it (`infix_of_infix_cutAt`).
-/

namespace TexGlyph

section Pieces

variable {sep : Char}

/-! ### The pieces at both ends -/

/-- Whether a text begins with `piece` and goes on with a separator, if it goes on. -/
def Opens (sep : Char) (piece text : List Char) : Prop :=
  text = piece ∨ ∃ rest, text = piece ++ sep :: rest

/-- Whether a text ends with `piece` and has a separator in front of it, if there is anything. -/
def Closes (sep : Char) (piece text : List Char) : Prop :=
  text = piece ∨ ∃ front, text = front ++ sep :: piece

theorem Opens.exists_append {piece text : List Char} (h : Opens sep piece text) :
    ∃ tail, text = piece ++ tail := by
  rcases h with rfl | ⟨rest, rfl⟩
  · exact ⟨[], (List.append_nil text).symm⟩
  · exact ⟨sep :: rest, rfl⟩

theorem Closes.exists_append {piece text : List Char} (h : Closes sep piece text) :
    ∃ head, text = head ++ piece := by
  rcases h with rfl | ⟨front, rfl⟩
  · exact ⟨[], rfl⟩
  · exact ⟨front ++ [sep], by rw [List.append_assoc, List.singleton_append]⟩

theorem Opens.mem_cutAt {piece text : List Char} (h : Opens sep piece text) (hpiece : sep ∉ piece) :
    piece ∈ cutAt sep text := by
  rw [cutAt_eq_splitOn]
  rcases h with rfl | ⟨rest, rfl⟩
  · rw [List.splitOn_eq_singleton hpiece]
    exact List.mem_singleton_self text
  · rw [List.splitOn_append_cons_self_of_not_mem hpiece]
    exact List.mem_cons_self

theorem Closes.mem_cutAt {piece text : List Char} (h : Closes sep piece text)
    (hpiece : sep ∉ piece) : piece ∈ cutAt sep text := by
  rw [cutAt_eq_splitOn]
  rcases h with rfl | ⟨front, rfl⟩
  · rw [List.splitOn_eq_singleton hpiece]
    exact List.mem_singleton_self text
  · rw [List.splitOn_append_cons_self, List.splitOn_eq_singleton hpiece]
    exact List.mem_append_right _ (List.mem_singleton_self piece)

theorem exists_opens (sep : Char) (text : List Char) :
    ∃ piece, sep ∉ piece ∧ Opens sep piece text := by
  by_cases h : sep ∈ text
  · obtain ⟨piece, rest, htext, hpiece⟩ := List.eq_append_cons_of_mem h
    exact ⟨piece, hpiece, .inr ⟨rest, htext⟩⟩
  · exact ⟨text, h, .inl rfl⟩

theorem exists_closes (sep : Char) (text : List Char) :
    ∃ piece, sep ∉ piece ∧ Closes sep piece text := by
  obtain ⟨piece, hpiece, htext⟩ := exists_opens sep text.reverse
  refine ⟨piece.reverse, by rwa [List.mem_reverse], ?_⟩
  rcases htext with htext | ⟨rest, htext⟩
  · exact .inl (by rw [← htext, List.reverse_reverse])
  · refine .inr ⟨rest.reverse, ?_⟩
    rw [← List.reverse_reverse text, htext, List.reverse_append, List.reverse_cons,
      List.append_assoc, List.singleton_append]

/-! ### What stands between two separators -/

/-- **What stands in the middle of a text is cut together with the pieces next to it**, and does not
change how the rest is cut. -/
theorem exists_cutAt_eq {left right front back : List Char} (hfront : Closes sep left front)
    (hback : Opens sep right back) :
    ∃ before after, ∀ middle, cutAt sep (front ++ middle ++ back) =
      before ++ cutAt sep (left ++ middle ++ right) ++ after := by
  simp only [cutAt_eq_splitOn]
  rcases hfront with rfl | ⟨outer, rfl⟩ <;> rcases hback with rfl | ⟨rest, rfl⟩
  · exact ⟨[], [], fun middle => by rw [List.nil_append, List.append_nil]⟩
  · refine ⟨[], rest.splitOn sep, fun middle => ?_⟩
    rw [List.nil_append, ← List.append_assoc, List.splitOn_append_cons_self]
  · refine ⟨outer.splitOn sep, [], fun middle => ?_⟩
    rw [List.append_nil, List.append_assoc, List.append_assoc, List.cons_append,
      List.splitOn_append_cons_self, List.append_assoc]
  · refine ⟨outer.splitOn sep, rest.splitOn sep, fun middle => ?_⟩
    have hshape : outer ++ sep :: left ++ middle ++ (right ++ sep :: rest) =
        outer ++ sep :: (left ++ middle ++ right ++ sep :: rest) := by
      simp only [List.append_assoc, List.cons_append]
    rw [hshape, List.splitOn_append_cons_self, List.splitOn_append_cons_self,
      ← List.append_assoc]

/-! ### Neighbouring pieces -/

theorem intercalate_cutAt (sep : Char) (text : List Char) :
    [sep].intercalate (cutAt sep text) = text := by
  rw [cutAt_eq_splitOn]
  exact List.intercalate_splitOn sep

theorem prefix_intercalate {pieces all : List (List Char)} (h : pieces <+: all) :
    [sep].intercalate pieces <+: [sep].intercalate all := by
  induction pieces generalizing all with
  | nil => exact List.nil_prefix
  | cons piece pieces ih =>
    obtain ⟨more, rfl⟩ := h
    cases pieces with
    | nil =>
      rw [List.intercalate_singleton, List.singleton_append]
      cases more with
      | nil => rw [List.intercalate_singleton]
      | cons next more =>
        rw [List.intercalate_cons_cons, List.append_assoc]
        exact List.prefix_append _ _
    | cons next pieces =>
      rw [List.intercalate_cons_cons, List.cons_append, List.cons_append,
        List.intercalate_cons_cons]
      exact (List.prefix_append_right_inj _).2 (ih (List.prefix_append _ more))

theorem suffix_intercalate {pieces all : List (List Char)} (h : pieces <:+ all) :
    [sep].intercalate pieces <:+ [sep].intercalate all := by
  obtain ⟨before, rfl⟩ := h
  induction before with
  | nil => exact List.suffix_rfl
  | cons piece before ih =>
    rw [List.cons_append]
    by_cases hne : before ++ pieces = []
    · rw [(List.append_eq_nil_iff.1 hne).2]
      exact List.nil_suffix
    · rw [List.intercalate_cons_of_ne_nil hne]
      exact ih.trans (List.suffix_append _ _)

/-- **A text whose pieces are neighbouring pieces of another one occurs in it.** -/
theorem infix_of_infix_cutAt {part text : List Char} (h : cutAt sep part <:+: cutAt sep text) :
    part <:+: text := by
  obtain ⟨pieces, hpart, hpieces⟩ := List.infix_iff_prefix_suffix.1 h
  rw [← intercalate_cutAt sep part, ← intercalate_cutAt sep text]
  exact (prefix_intercalate hpart).isInfix.trans (suffix_intercalate hpieces).isInfix

end Pieces

/-! ### Stretches of a list -/

section Stretch

variable {α : Type} {part front back : List α}

/-- A stretch without one of the elements stands before it or after it. -/
theorem infix_append_cons_iff {x : α} (hx : x ∉ part) :
    part <:+: front ++ x :: back ↔ part <:+: front ∨ part <:+: back := by
  constructor
  · intro h
    -- If the stretch were on both sides, it would have the element in the middle.
    rcases List.infix_append_iff_ne_nil.1 h with hfront | hback | ⟨l, r, -, hr, rfl, -, hback⟩
    · exact .inl hfront
    · rcases List.infix_cons_iff.1 hback with hcons | hback
      · rcases List.prefix_cons_iff.1 hcons with rfl | ⟨tail, rfl, -⟩
        · exact .inr List.nil_infix
        · exact absurd List.mem_cons_self hx
      · exact .inr hback
    · rcases List.prefix_cons_iff.1 hback with rfl | ⟨tail, rfl, -⟩
      · exact absurd rfl hr
      · exact absurd (List.mem_append_right l List.mem_cons_self) hx
  · rintro (hfront | hback)
    · exact List.infix_append_of_infix_left hfront
    · exact List.infix_append_of_infix_right (List.infix_cons hback)

/-- A stretch that has nothing in common with what is in the middle stands before it or after it. -/
theorem infix_or_infix_of_disjoint {middle : List α} (hne : middle ≠ [])
    (hmiddle : middle.Disjoint part) (h : part <:+: front ++ middle ++ back) :
    part <:+: front ∨ part <:+: back := by
  induction middle generalizing front with
  | nil => exact absurd rfl hne
  | cons x middle ih =>
    obtain ⟨hx, htail⟩ := List.disjoint_cons_left.1 hmiddle
    rw [List.append_assoc, List.cons_append, infix_append_cons_iff hx] at h
    rcases h with hfront | hback
    · exact .inl hfront
    · cases middle with
      | nil => exact .inr hback
      | cons y middle =>
        rw [← List.nil_append (y :: middle)] at hback
        rcases ih (List.cons_ne_nil y middle) htail hback with hnil | hback
        · exact .inr (hnil.trans List.nil_infix)
        · exact .inr hback

end Stretch

end TexGlyph
