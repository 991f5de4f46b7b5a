import TexGlyph.Proofs.Spelling.Rule
import TexGlyph.Spelling.Text

/-!
# Texts as folds

What a speller writes does not depend on positions: the fragments of a text are a fold of `push`
over its characters (`fragments_spell`), and its text is their text (`text_spell`).  Remarks are
made in the same order (`spellFrom_append`).
-/

namespace TexGlyph.Speller

variable (s : Speller)

/-- The fragments after one more character, the last one first. -/
def push (stack : List String) (c : Char) : List String := (Action.perform (s.actions c) stack).1

theorem spellFrom_fst (p : Position) (cs : List Char) (stack : List String) :
    (s.spellFrom p cs stack).1 = cs.foldl s.push stack := by
  induction cs generalizing p stack with
  | nil => rfl
  | cons c cs ih =>
    show (s.spellFrom (p.advance 1) cs (Action.perform (s.actions c) stack).1).1 = _
    rw [ih, List.foldl_cons]
    rfl

theorem fragments_spell (p : Position) (text : String) :
    (s.spell p text).fragments = (text.toList.foldl s.push []).reverse := by
  show (s.spellFrom p text.toList []).1.reverse = _
  rw [spellFrom_fst]

theorem text_spell (p : Position) (text : String) :
    (s.spell p text).text = Action.textOf (text.toList.foldl s.push []) := by
  unfold Spelling.text Action.textOf
  rw [fragments_spell]

/-- A text is spelled from front to back: what follows is spelled after the fragments so far. -/
theorem spellFrom_append (p : Position) (first second : List Char) (stack : List String) :
    s.spellFrom p (first ++ second) stack =
      let (middle, earlier) := s.spellFrom p first stack
      let (last, later) := s.spellFrom (p.advance first.length) second middle
      (last, earlier ++ later) := by
  induction first generalizing p stack with
  | nil => rfl
  | cons c first ih =>
    simp only [List.cons_append, spellFrom, ih, Position.advance_advance, List.length_cons,
      List.append_assoc, Nat.add_comm 1]

/-- Characters that write one fragment each in every place give these fragments. -/
theorem foldl_push_of_writesOnce {fragment : Char → String} {cs : List Char}
    (h : ∀ c ∈ cs, Action.WritesOnce (s.actions c) (fragment c)) (stack : List String) :
    cs.foldl s.push stack = (cs.map fragment).reverse ++ stack := by
  induction cs generalizing stack with
  | nil => rfl
  | cons c cs ih =>
    have hc : s.push stack c = fragment c :: stack := (h c List.mem_cons_self).perform_eq stack
    rw [List.foldl_cons, hc, ih fun x hx => h x (List.mem_cons_of_mem c hx)]
    simp

/-- Where every character writes one fragment, the spelling is these fragments. -/
theorem text_spell_eq_join {fragment : Char → String} {text : String}
    (h : ∀ c ∈ text.toList, Action.WritesOnce (s.actions c) (fragment c)) (p : Position) :
    (s.spell p text).text = String.join (text.toList.map fragment) := by
  rw [text_spell, s.foldl_push_of_writesOnce h, Action.textOf, List.append_nil,
    List.reverse_reverse]

/-- Where every character writes itself, the text comes out as it is. -/
theorem text_spell_of_writesOnce {text : String}
    (h : ∀ c ∈ text.toList, Action.WritesOnce (s.actions c) (charFragment c)) (p : Position) :
    (s.spell p text).text = text := by
  rw [s.text_spell_eq_join h, ← String.toList_inj, String.toList_join, List.flatMap_map]
  have hchar : ∀ c, (charFragment c).toList = [c] := fun c => String.toList_ofList
  simp only [hchar, List.flatMap_singleton']

/-- A character at the end of a text that writes one fragment adds this fragment. -/
theorem text_spell_append_singleton {c : Char} {fragment : String}
    (h : Action.WritesOnce (s.actions c) fragment) (p : Position) (text : String) :
    (s.spell p (text ++ String.ofList [c])).text = (s.spell p text).text ++ fragment := by
  rw [text_spell, text_spell, String.toList_append, String.toList_ofList, List.foldl_append,
    List.foldl_cons, List.foldl_nil, push, h.perform_eq, Action.textOf_cons]

/-- A character on its own that writes one fragment is spelled as this fragment. -/
theorem text_spell_singleton {c : Char} {fragment : String}
    (h : Action.WritesOnce (s.actions c) fragment) (p : Position) :
    (s.spell p (String.ofList [c])).text = fragment := by
  rw [text_spell, String.toList_ofList, List.foldl_cons, List.foldl_nil, push, h.perform_eq,
    Action.textOf_cons, Action.textOf_nil, String.empty_append]

end TexGlyph.Speller
