import TexGlyph.Proofs.Latex.Token
import TexGlyph.Substitution

/-!
# What a substitution does to a source

A substitution works token by token, so it can be followed from the front of a source to its end:
`replaced_source_append` takes off one token.  Two cases of it need no look at the rest of the
source.  A character that neither starts a control sequence nor a comment stays where it is, unless
it is active and has a replacement (`replaced_cons`), and a control word that is followed by no
letter turns into its replacement (`replaced_word_append`).
-/

namespace TexGlyph

/-- Whether a command is a backslash and one letter or more. -/
def IsControlWord (command : String) : Prop :=
  ∃ name : List Char, name ≠ [] ∧ (∀ c ∈ name, Category.isLetter c = true) ∧
    command = "\\" ++ String.ofList name

namespace Substitution

open Token Category

variable {s : Substitution}

/-! ### Single tokens -/

theorem textOf_of_replacement {t : Token} {key text : String} (hkey : t.key? = some key)
    (h : s.replacements[key]? = some text) : s.textOf t = text := by
  rw [textOf, replacement?, hkey, Option.bind_some, h]
  rfl

/-- A token without a replacement stays as it was written. -/
theorem textOf_of_no_replacement {t : Token}
    (h : ∀ key ∈ t.key?, s.replacements[key]? = none) : s.textOf t = String.ofList t.source := by
  have hnone : s.replacement? t = none := by
    rw [replacement?, Option.bind_eq_none_iff]
    intro key hkey
    rw [h key hkey, Option.map_none]
  rw [textOf, hnone]

/-! ### Sources -/

/-- What the characters of a source turn into. -/
def replaced (s : Substitution) (cs : List Char) : List Char :=
  (scan cs).flatMap fun t => (s.textOf t).toList

theorem toList_convert (source : String) :
    (s.convert source).toList = s.replaced source.toList := by
  rw [convert, String.toList_join, List.flatMap_map]
  rfl

theorem replaced_nil : s.replaced [] = [] := by
  rw [replaced, scan]
  rfl

theorem replaced_source_append {t : Token} {rest : List Char} (h : t.Ends rest.head?) :
    s.replaced (t.source ++ rest) = (s.textOf t).toList ++ s.replaced rest := by
  rw [replaced, scan_source_append h, List.flatMap_cons]
  rfl

theorem replaced_source_append_of_no_replacement {t : Token} {rest : List Char}
    (h : t.Ends rest.head?) (hkey : ∀ key ∈ t.key?, s.replacements[key]? = none) :
    s.replaced (t.source ++ rest) = t.source ++ s.replaced rest := by
  rw [replaced_source_append h, textOf_of_no_replacement hkey, String.toList_ofList]

/-- A maximal run of plain text stays. -/
theorem replaced_run_append {run rest : List Char} (hrun : ∀ c ∈ run, isText c = true)
    (hrest : ∀ c ∈ rest.head?, isText c = false) :
    s.replaced (run ++ rest) = run ++ s.replaced rest := by
  by_cases hnil : run = []
  · rw [hnil, List.nil_append, List.nil_append]
  · have hsource : (text (String.ofList run)).source = run := String.toList_ofList
    have happend := replaced_source_append_of_no_replacement (s := s)
      (Ends.text hnil hrun hrest) (by simp [key?])
    rwa [hsource] at happend

/-- A plain character stays, whether it makes the run after it longer or is a run of its own. -/
theorem replaced_cons_of_isText {c : Char} (h : isText c = true) (cs : List Char) :
    s.replaced (c :: cs) = c :: s.replaced cs := by
  have hrun : ∀ x ∈ cs.takeWhile isText, isText x = true := fun _ => List.mem_takeWhile_imp
  have hrest : ∀ x ∈ (cs.dropWhile isText).head?, isText x = false :=
    fun _ => of_mem_head?_dropWhile
  have hlong : ∀ x ∈ c :: cs.takeWhile isText, isText x = true := by
    intro x hx
    rcases List.mem_cons.1 hx with rfl | hx
    · exact h
    · exact hrun x hx
  -- The character joins the run after it, and this run is what stays, with or without it.
  calc s.replaced (c :: cs)
      = s.replaced ((c :: cs.takeWhile isText) ++ cs.dropWhile isText) := by
        rw [List.cons_append, List.takeWhile_append_dropWhile]
    _ = c :: (cs.takeWhile isText ++ s.replaced (cs.dropWhile isText)) := by
        rw [replaced_run_append hlong hrest, List.cons_append]
    _ = c :: s.replaced (cs.takeWhile isText ++ cs.dropWhile isText) := by
        rw [replaced_run_append hrun hrest]
    _ = c :: s.replaced cs := by rw [List.takeWhile_append_dropWhile]

/-- Plain text at the front of a source stays, whether or not the run goes on after it. -/
theorem replaced_append_of_isText {run : List Char} (hrun : ∀ c ∈ run, isText c = true)
    (rest : List Char) : s.replaced (run ++ rest) = run ++ s.replaced rest := by
  induction run with
  | nil => rfl
  | cons c run ih =>
    obtain ⟨hc, hrun⟩ := List.forall_mem_cons.1 hrun
    rw [List.cons_append, replaced_cons_of_isText hc, ih hrun, List.cons_append]

/-- **A character that starts no control sequence and no comment stays**, where active characters
have no replacement. -/
theorem replaced_cons (hactive : ∀ c, s.replacements["\\" ++ activeName c]? = none) {c : Char}
    (hescape : c ≠ '\\') (hcomment : c ≠ '%') (cs : List Char) :
    s.replaced (c :: cs) = c :: s.replaced cs := by
  -- Outside of plain text, the character is a token of its own.
  have hsingle : ∀ {t : Token}, t.source = [c] → t.Ends cs.head? →
      (∀ key ∈ t.key?, s.replacements[key]? = none) →
      s.replaced (c :: cs) = c :: s.replaced cs := by
    intro t hsource hends hkey
    have happend := replaced_source_append_of_no_replacement hends hkey
    rwa [hsource] at happend
  cases htext : isText c with
  | true => exact replaced_cons_of_isText htext cs
  | false =>
    rcases isText_eq_false_iff.1 htext with h | h | rfl | rfl | h
    · exact absurd h hescape
    · exact absurd h hcomment
    · exact hsingle (t := .beginGroup) rfl .beginGroup (by simp [key?])
    · exact hsingle (t := .endGroup) rfl .endGroup (by simp [key?])
    · refine hsingle (t := .active c) rfl (.active h) fun key hkey => ?_
      obtain rfl := Option.some.inj hkey
      exact hactive c

/-- **A control word turns into its replacement**, where no letter follows. -/
theorem replaced_word_append {command text : String} (hcommand : IsControlWord command)
    (h : s.replacements[command]? = some text) (rest : List Char)
    (hrest : ∀ c ∈ rest.head?, isLetter c = false) :
    s.replaced (command.toList ++ rest) = text.toList ++ s.replaced rest := by
  obtain ⟨name, hne, hname, rfl⟩ := hcommand
  have happend := replaced_source_append (s := s) (Ends.word hne hname hrest)
  rw [textOf_of_replacement rfl h] at happend
  rw [String.toList_append]
  exact happend

end Substitution

end TexGlyph
