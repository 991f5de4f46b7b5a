import Mathlib.Data.List.Basic
import TexGlyph.Proofs.Spelling.Foreign

/-!
# Every character that is left is accounted for

Where the commands of the user and of the lexicon are ASCII, a character outside ASCII in a
spelling can only be one that was left as it is.  `Accounted` says so of actions: such a character
is written by its own spelling as well (`Keeps`), and, as long as accents are wanted, a warning
names it.  The actions for every character are accounted for (`accounted_actions`), by induction
along decompositions: wrappings keep the characters outside ASCII and hand on the warnings.

For texts, `foreignIn_text_spell` says which characters outside ASCII there are, and
`left_notes_spell` which ones the warnings name.
-/

namespace TexGlyph

/-! ### Characters that are written and characters that are named -/

/-- The character that a warning says was left as it is. -/
def Note.left : Note → List Char
  | .unconvertible c => [c]
  | .unsupportedTag _ c => [c]
  | _ => []

namespace Action

/-- The characters outside ASCII that an action adds to the fragments, if accents are ASCII. -/
def foreign : Action → List Char
  | write fragment => foreignIn fragment
  | _ => []

/-- The character that an action names in a warning as left. -/
def left : Action → List Char
  | note n => n.left
  | _ => []

/-- Actions that only write one fragment write what is in the fragment. -/
theorem flatMap_foreign_write (remarks : List Note) (fragment : String) :
    (remarks.map note ++ [write fragment]).flatMap foreign = foreignIn fragment := by
  have hnotes : (remarks.map note).flatMap foreign = [] := by
    rw [List.flatMap_map]
    exact List.flatMap_eq_nil_iff.2 fun _ _ => rfl
  rw [List.flatMap_append, hnotes, List.nil_append, List.flatMap_singleton]
  rfl

/-- Actions that only write one fragment name what their remarks name. -/
theorem flatMap_left_write (remarks : List Note) (fragment : String) :
    (remarks.map note ++ [write fragment]).flatMap left = remarks.flatMap Note.left := by
  rw [List.flatMap_append, List.flatMap_map]
  exact List.append_nil _

/-- What actions add to the characters outside ASCII does not depend on the fragments before. -/
theorem foreignIn_textOf_perform {actions : List Action}
    (h : ∀ mark command, accent mark command ∈ actions → IsAscii command) (stack : List String) :
    foreignIn (textOf (perform actions stack).1) =
      foreignIn (textOf stack) ++ actions.flatMap foreign := by
  induction actions generalizing stack with
  | nil => exact (List.append_nil _).symm
  | cons action actions ih =>
    have htail := fun mark command hmem => h mark command (List.mem_cons_of_mem action hmem)
    show foreignIn (textOf (perform actions (action.apply stack)).1) = _
    rw [ih htail, List.flatMap_cons, ← List.append_assoc]
    congr 1
    cases action with
    | note n => exact (List.append_nil _).symm
    | write fragment => exact foreignIn_textOf_cons fragment stack
    | accent mark command =>
      have hcommand := h mark command List.mem_cons_self
      cases stack with
      | nil =>
        -- With nothing before it a mark stands over a blank, which is ASCII as well.
        rw [apply, foreignIn_textOf_cons, foreignIn_applied hcommand, foreignIn_blank]
        rfl
      | cons base stack =>
        rw [apply, foreignIn_textOf_cons, foreignIn_applied hcommand, foreignIn_textOf_cons]
        exact (List.append_nil _).symm

/-- The warnings of actions name the same characters above any fragments. -/
theorem left_perform (actions : List Action) (stack : List String) :
    (perform actions stack).2.flatMap Note.left = actions.flatMap left := by
  induction actions generalizing stack with
  | nil => rfl
  | cons action actions ih =>
    show (action.notes stack ++ (perform actions (action.apply stack)).2).flatMap Note.left = _
    rw [List.flatMap_append, ih, List.flatMap_cons]
    congr 1
    cases action with
    | note n => exact List.flatMap_singleton _ _
    | write fragment => rfl
    | accent mark command => cases stack <;> rfl

end Action

namespace Speller

/-! ### The invariant -/

/-- Whether the spelling of a character writes the character itself, as one fragment. -/
def Keeps (s : Speller) (c : Char) : Prop := Action.WritesOnce (s.actions c) (charFragment c)

/-- Whether the commands that a speller takes from the user and from the lexicon are ASCII. -/
structure AsciiCommands (s : Speller) : Prop where
  /-- The commands of the user are. -/
  overrides : ∀ (c : Char) (command : String),
    s.preferences.overrides[c]? = some command → IsAscii command
  /-- The canonical commands of the lexicon are. -/
  symbols : ∀ (c : Char) (command : String),
    s.lexicon.canonical? c = some command → IsAscii command

/-- Whether actions account for every character outside ASCII that they write. -/
structure Accounted (s : Speller) (actions : List Action) : Prop where
  /-- Accent commands are ASCII. -/
  accents : ∀ mark command, .accent mark command ∈ actions → IsAscii command
  /-- What is written outside ASCII is written by its own spelling as well. -/
  kept : ∀ x ∈ actions.flatMap Action.foreign, s.Keeps x
  /-- Where accents are wanted, the warnings name what is written outside ASCII, in order. -/
  named : s.preferences.accents = true →
    actions.flatMap Action.foreign = actions.flatMap Action.left

namespace Accounted

variable {s : Speller} {actions : List Action}

/-- Actions that write ASCII only and name nothing as left are accounted for. -/
theorem of_ascii (haccents : ∀ mark command, .accent mark command ∈ actions → IsAscii command)
    (hforeign : actions.flatMap Action.foreign = []) (hleft : actions.flatMap Action.left = []) :
    Accounted s actions where
  accents := haccents
  kept := by
    rw [hforeign]
    exact fun x hx => absurd hx List.not_mem_nil
  named := fun _ => hforeign.trans hleft.symm

theorem note_cons (h : Accounted s actions) {n : Note} (hn : n.left = []) :
    Accounted s (.note n :: actions) where
  accents := fun mark command hmem => by
    rcases List.mem_cons.1 hmem with heq | hmem
    · cases heq
    · exact h.accents mark command hmem
  kept := h.kept
  named := fun hon => by
    rw [List.flatMap_cons, List.flatMap_cons, h.named hon]
    show [] ++ _ = n.left ++ _
    rw [hn]

/-- A character that is left as it is is accounted for, if the remarks name it. -/
theorem of_keeps {c : Char} (h : s.Keeps c) (hc : isForeign c = true) (remarks : List Note)
    (hnamed : s.preferences.accents = true → remarks.flatMap Note.left = [c]) :
    Accounted s (remarks.map .note ++ [.write (charFragment c)]) := by
  have hforeign : (remarks.map Action.note ++ [Action.write (charFragment c)]).flatMap
      Action.foreign = [c] := by
    rw [Action.flatMap_foreign_write, foreignIn_charFragment, hc, if_pos rfl]
  constructor
  · intro mark command hmem
    simp at hmem
  · intro x hx
    rw [hforeign, List.mem_singleton] at hx
    rw [hx]
    exact h
  · intro hon
    rw [hforeign, Action.flatMap_left_write, hnamed hon]

theorem flatMap {spelled : Char → List Action} {chars : List Char}
    (h : ∀ x ∈ chars, Accounted s (spelled x)) : Accounted s (chars.flatMap spelled) where
  accents := fun mark command hmem => by
    obtain ⟨x, hx, hmem⟩ := List.mem_flatMap.1 hmem
    exact (h x hx).accents mark command hmem
  kept := fun y hy => by
    rw [List.flatMap_assoc] at hy
    obtain ⟨x, hx, hy⟩ := List.mem_flatMap.1 hy
    exact (h x hx).kept y hy
  named := fun hon => by
    rw [List.flatMap_assoc, List.flatMap_assoc]
    exact List.flatMap_congr fun x hx => (h x hx).named hon

/-- The text of actions that are spelled apart has the characters outside ASCII that they
write. -/
theorem foreignIn_apart (h : Accounted s actions) :
    foreignIn (Action.apart actions).1 = actions.flatMap Action.foreign := by
  show foreignIn (Action.textOf (Action.perform actions []).1) = _
  rw [Action.foreignIn_textOf_perform h.accents]
  rfl

theorem left_apart (actions : List Action) :
    (Action.apart actions).2.flatMap Note.left = actions.flatMap Action.left :=
  Action.left_perform actions []

/-- **Wrapping the text of actions changes nothing about what is left.** -/
theorem enclose (h : Accounted s actions) {wrap : String → String}
    (hwrap : ∀ text, foreignIn (wrap text) = foreignIn text) :
    Accounted s (Action.enclose actions wrap) := by
  have hforeign : (Action.enclose actions wrap).flatMap Action.foreign =
      actions.flatMap Action.foreign := by
    rw [← h.foreignIn_apart, ← hwrap]
    exact Action.flatMap_foreign_write _ _
  have hleft : (Action.enclose actions wrap).flatMap Action.left =
      actions.flatMap Action.left := by
    rw [← left_apart actions]
    exact Action.flatMap_left_write _ _
  constructor
  · intro mark command hmem
    simp [Action.enclose] at hmem
  · rw [hforeign]
    exact h.kept
  · rw [hforeign, hleft]
    exact h.named

theorem enclosePair {first second : List Action} (hfirst : Accounted s first)
    (hsecond : Accounted s second) :
    Accounted s (Action.enclosePair first second fractionText) := by
  have hforeign : (Action.enclosePair first second fractionText).flatMap Action.foreign =
      first.flatMap Action.foreign ++ second.flatMap Action.foreign := by
    rw [← hfirst.foreignIn_apart, ← hsecond.foreignIn_apart, ← foreignIn_fractionText]
    exact Action.flatMap_foreign_write _ _
  have hleft : (Action.enclosePair first second fractionText).flatMap Action.left =
      first.flatMap Action.left ++ second.flatMap Action.left := by
    rw [← left_apart first, ← left_apart second, ← List.flatMap_append]
    exact Action.flatMap_left_write _ _
  constructor
  · intro mark command hmem
    simp [Action.enclosePair] at hmem
  · rw [hforeign]
    intro x hx
    exact (List.mem_append.1 hx).elim (hfirst.kept x) (hsecond.kept x)
  · rw [hforeign, hleft]
    intro hon
    rw [hfirst.named hon, hsecond.named hon]

/-- A single fragment of ASCII is accounted for. -/
theorem write {fragment : String} (h : foreignIn fragment = []) :
    Accounted s [.write fragment] := by
  refine of_ascii ?_ ?_ ?_
  · intro mark command hmem
    simp at hmem
  · rw [List.flatMap_singleton, Action.foreign, h]
  · rfl

end Accounted

/-! ### The actions for a character -/

variable {s : Speller}

theorem isForeign_of_decomposition {c : Char} {d : Decomposition}
    (h : Decomposition.of? c = some d) : isForeign c = true := by
  rw [isForeign, decide_eq_true_eq]
  by_contra hle
  rw [Decomposition.of?_eq_none_of_ascii (Nat.le_of_not_lt hle)] at h
  cases h

theorem isAscii_greekCommand {c : Char} {name : String} (h : charName? c = some name) :
    IsAscii ("\\" ++ greekCommand name) := by
  intro x hx
  rw [String.toList_append] at hx
  rw [isForeign, decide_eq_false_iff_not]
  rcases List.mem_append.1 hx with hback | hword
  · obtain rfl : x = '\\' := by simpa using hback
    decide
  · have hle := le_of_isWordCode (isWordCode_of_mem_greekCommand h hword)
    omega

/-- The rules after the decomposition account for what they write, if the character comes to
them. -/
theorem accounted_fallback (hs : s.AsciiCommands) {c : Char}
    (h : ∀ fragment, Action.WritesOnce (s.fallback c) fragment →
      Action.WritesOnce (s.actions c) fragment) : s.Accounted (s.fallback c) := by
  cases s.fallback_cases c with
  | greek name hname eq =>
    rw [eq]
    exact .write (foreignIn_commandFragment (isAscii_greekCommand hname))
  | symbol command hcommand _ eq =>
    rw [eq]
    exact (Accounted.write (foreignIn_commandFragment (hs.symbols c command hcommand))).note_cons rfl
  | unconvertible hforeign eq =>
    have hkeeps : s.Keeps c := h _ ⟨[.unconvertible c], eq⟩
    rw [eq]
    exact .of_keeps hkeeps hforeign [.unconvertible c] fun _ => rfl
  | ascii hforeign eq =>
    rw [eq]
    refine .write ?_
    rw [foreignIn_charFragment, hforeign]
    rfl

/-- **The actions for every character are accounted for**, where commands are ASCII. -/
theorem accounted_actions (hs : s.AsciiCommands) (c : Char) : s.Accounted (s.actions c) := by
  induction c using Decomposition.scalarInduction with
  | step c ih =>
  cases s.spelled c with
  | ligature spelling hspelling eq =>
    rw [eq]
    exact .write (foreignIn_of_ligature? hspelling)
  | overridden command hcommand eq =>
    rw [eq]
    exact (Accounted.write (foreignIn_commandFragment (hs.overrides c command hcommand))).note_cons
      rfl
  | preferred command hcommand _ eq =>
    rw [eq]
    exact (Accounted.write (foreignIn_commandFragment (hs.symbols c command hcommand))).note_cons rfl
  | overlay tag htag _ eq =>
    rw [eq]
    refine .of_ascii ?_ rfl rfl
    intro mark command hmem
    obtain ⟨rfl, rfl⟩ : mark = c ∧ command = s.preferences.accentMode.command tag := by
      simpa using hmem
    exact isAscii_command htag _
  | fallback _ eq =>
    rw [eq]
    exact accounted_fallback hs fun fragment hfragment => eq ▸ hfragment
  | decomposed d hd actions hactions eq =>
    have hforeign := isForeign_of_decomposition hd
    have hchars : ∀ chars : List Char, (∀ x ∈ chars, x ∈ d.scalars) →
        s.Accounted (chars.flatMap s.actions) :=
      fun chars hsub => .flatMap fun x hx => ih d hd x (hsub x hx)
    cases hactions with
    | enclosed hsub hwrap =>
      rw [eq]
      exact ((hchars _ hsub).enclose (foreignIn_wrap hwrap)).note_cons rfl
    | fraction numerator denominator =>
      rw [eq]
      refine (Accounted.enclosePair (hchars _ ?_) (hchars _ ?_)).note_cons rfl
      · exact fun x hx => List.mem_append_left denominator hx
      · exact fun x hx => List.mem_append_right numerator hx
    | ligature first rest _ =>
      rw [eq]
      exact (hchars _ fun x hx => hx).note_cons rfl
    | refused n hn =>
      -- The refusal is only noted; a warning about `c` itself is left to the rules that follow.
      have hleft : n.left = [] := by rcases hn with rfl | rfl <;> rfl
      have hfallback : s.Accounted (s.fallback c) := by
        refine accounted_fallback hs fun fragment hfragment => ?_
        rw [eq]
        exact (hfragment.note_cons n).note_cons _
      rw [eq]
      exact (hfallback.note_cons hleft).note_cons rfl
    | unsupported tag =>
      have hkeeps : s.Keeps c := ⟨[_, .unsupportedTag tag c], eq⟩
      rw [eq]
      exact .of_keeps hkeeps hforeign [_, .unsupportedTag tag c] fun _ => rfl
    | kept _ hoff =>
      -- Nothing is named here, but accents are not wanted either.
      have hkeeps : s.Keeps c := ⟨[_], eq⟩
      rw [eq]
      refine .of_keeps hkeeps hforeign [_] fun hon => ?_
      rw [hoff] at hon
      cases hon

/-! ### Whole texts -/

theorem foreignIn_textOf_foldl_push (hs : s.AsciiCommands) (cs : List Char) (stack : List String) :
    foreignIn (Action.textOf (cs.foldl s.push stack)) =
      foreignIn (Action.textOf stack) ++ cs.flatMap fun c => (s.actions c).flatMap Action.foreign := by
  induction cs generalizing stack with
  | nil => exact (List.append_nil _).symm
  | cons c cs ih =>
    rw [List.foldl_cons, ih, push, Action.foreignIn_textOf_perform (accounted_actions hs c).accents,
      List.flatMap_cons, List.append_assoc]

/-- The characters outside ASCII in the spelling of a text are those that the actions for its
characters write, in order. -/
theorem foreignIn_text_spell (hs : s.AsciiCommands) (p : Position) (text : String) :
    foreignIn (s.spell p text).text =
      text.toList.flatMap fun c => (s.actions c).flatMap Action.foreign := by
  rw [text_spell, foreignIn_textOf_foldl_push hs]
  rfl

theorem left_notes_spellFrom (p : Position) (cs : List Char) (stack : List String) :
    (s.spellFrom p cs stack).2.flatMap (·.note.left) =
      cs.flatMap fun c => (s.actions c).flatMap Action.left := by
  induction cs generalizing p stack with
  | nil => rfl
  | cons c cs ih =>
    show ((Action.perform (s.actions c) stack).2.map (LocatedNote.mk (p.advance 1)) ++
      (s.spellFrom (p.advance 1) cs (s.push stack c)).2).flatMap
        (fun n : LocatedNote => n.note.left) = _
    rw [List.flatMap_append, ih, List.flatMap_map, List.flatMap_cons]
    exact congrArg (· ++ _) (Action.left_perform (s.actions c) stack)

/-- The warnings on a text name what the actions for its characters name, in order. -/
theorem left_notes_spell (p : Position) (text : String) :
    (s.spell p text).notes.flatMap (·.note.left) =
      text.toList.flatMap fun c => (s.actions c).flatMap Action.left :=
  left_notes_spellFrom p text.toList []

end Speller

end TexGlyph
