import TexGlyph.Spelling.Fragments

/-!
# What actions do to the fragments

Actions never look further down than the last fragment.  So what lies below a fragment is never
touched (`perform_append_stack`), and actions that write a fragment before they put an accent on
one do the same above any fragments (`StandsAlone.perform_eq`).  Most characters even write exactly
one fragment and touch no other (`WritesOnce`); `enclose` and `enclosePair` always do.
-/

namespace TexGlyph.Action

/-! ### Performing actions -/

@[simp] theorem perform_map_note (remarks : List Note) (stack : List String) :
    perform (remarks.map note) stack = (stack, remarks) := by
  induction remarks with
  | nil => rfl
  | cons n remarks ih => simp [perform, apply, notes, ih]

/-! ### The text of fragments -/

@[simp] theorem textOf_nil : textOf [] = "" := rfl

/-- The text of fragments grows at the end. -/
theorem textOf_cons (fragment : String) (stack : List String) :
    textOf (fragment :: stack) = textOf stack ++ fragment := by
  rw [textOf, List.reverse_cons, String.join_append, String.join_cons, String.join_nil,
    String.append_empty]
  rfl

/-! ### Fragments below the last one -/

theorem apply_ne_nil (action : Action) {stack : List String} (h : stack ≠ []) :
    action.apply stack ≠ [] := by
  cases action with
  | note n => exact h
  | write fragment => exact List.cons_ne_nil _ _
  | accent mark command => cases stack <;> exact List.cons_ne_nil _ _

theorem apply_append_stack (action : Action) {top : List String} (h : top ≠ [])
    (below : List String) : action.apply (top ++ below) = action.apply top ++ below := by
  cases top with
  | nil => exact absurd rfl h
  | cons fragment top => cases action <;> rfl

theorem notes_append_stack (action : Action) {top : List String} (h : top ≠ [])
    (below : List String) : action.notes (top ++ below) = action.notes top := by
  cases top with
  | nil => exact absurd rfl h
  | cons fragment top => cases action <;> rfl

/-- **The frame of actions**: above at least one fragment, what lies below stays as it is and
does not matter. -/
theorem perform_append_stack (actions : List Action) {top : List String} (h : top ≠ [])
    (below : List String) :
    perform actions (top ++ below) =
      ((perform actions top).1 ++ below, (perform actions top).2) := by
  induction actions generalizing top with
  | nil => rfl
  | cons action actions ih =>
    simp only [perform, apply_append_stack action h, notes_append_stack action h,
      ih (apply_ne_nil action h)]

theorem perform_ne_nil (actions : List Action) {stack : List String} (h : stack ≠ []) :
    (perform actions stack).1 ≠ [] := by
  induction actions generalizing stack with
  | nil => exact h
  | cons action actions ih => exact ih (apply_ne_nil action h)

/-! ### Actions that need nothing before them -/

/-- Whether actions write a fragment before they put an accent on one. -/
def StandsAlone (actions : List Action) : Prop :=
  ∃ (remarks : List Note) (fragment : String) (later : List Action),
    actions = remarks.map note ++ write fragment :: later

/-- Whether actions write the given fragment and do nothing else but make remarks. -/
def WritesOnce (actions : List Action) (fragment : String) : Prop :=
  ∃ remarks : List Note, actions = remarks.map note ++ [write fragment]

theorem WritesOnce.standsAlone {actions : List Action} {fragment : String}
    (h : WritesOnce actions fragment) : StandsAlone actions := by
  obtain ⟨remarks, rfl⟩ := h
  exact ⟨remarks, fragment, [], rfl⟩

theorem WritesOnce.note_cons {actions : List Action} {fragment : String}
    (h : WritesOnce actions fragment) (n : Note) : WritesOnce (note n :: actions) fragment := by
  obtain ⟨remarks, rfl⟩ := h
  exact ⟨n :: remarks, rfl⟩

theorem StandsAlone.note_cons {actions : List Action} (h : StandsAlone actions) (n : Note) :
    StandsAlone (note n :: actions) := by
  obtain ⟨remarks, fragment, later, rfl⟩ := h
  exact ⟨n :: remarks, fragment, later, rfl⟩

theorem StandsAlone.append {first : List Action} (h : StandsAlone first) (second : List Action) :
    StandsAlone (first ++ second) := by
  obtain ⟨remarks, fragment, later, rfl⟩ := h
  exact ⟨remarks, fragment, later ++ second, by simp⟩

theorem writesOnce_enclose (actions : List Action) (wrap : String → String) :
    WritesOnce (enclose actions wrap) (wrap (apart actions).1) :=
  ⟨(apart actions).2, rfl⟩

theorem writesOnce_enclosePair (first second : List Action) (wrap : String → String → String) :
    WritesOnce (enclosePair first second wrap) (wrap (apart first).1 (apart second).1) :=
  ⟨(apart first).2 ++ (apart second).2, rfl⟩

/-- Actions that write once put their fragment on top, whatever lies below. -/
theorem WritesOnce.perform_eq {actions : List Action} {fragment : String}
    (h : WritesOnce actions fragment) (stack : List String) :
    (perform actions stack).1 = fragment :: stack := by
  obtain ⟨remarks, rfl⟩ := h
  simp only [perform_append, perform_map_note, perform, apply]

/-- The text of actions that write once is their fragment. -/
theorem WritesOnce.apart_eq {actions : List Action} {fragment : String}
    (h : WritesOnce actions fragment) : (apart actions).1 = fragment := by
  show textOf (perform actions []).1 = fragment
  rw [h.perform_eq, textOf_cons, textOf_nil, String.empty_append]

/-- Actions that need nothing before them do the same above any fragments. -/
theorem StandsAlone.perform_eq {actions : List Action} (h : StandsAlone actions)
    (stack : List String) :
    (perform actions stack).1 = (perform actions []).1 ++ stack ∧ (perform actions []).1 ≠ [] := by
  obtain ⟨remarks, fragment, later, rfl⟩ := h
  simp only [perform_append, perform_map_note, perform, apply]
  constructor
  · rw [show fragment :: stack = [fragment] ++ stack from rfl,
      perform_append_stack later (List.cons_ne_nil _ _)]
  · exact perform_ne_nil later (List.cons_ne_nil _ _)

end TexGlyph.Action
