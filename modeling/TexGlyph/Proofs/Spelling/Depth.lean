import TexGlyph.Proofs.Spelling.Rule
import TexGlyph.Proofs.Unicode.Decomposition

/-!
# How deep the spelling of a character goes

The spelling of a character spells the characters of its decomposition, and these again those of
theirs.  Here this recursion is written out on fragments, as it runs: `pushLevel` is one level of it,
with the level below as a parameter, and `pushWithin` stacks as many levels as it is given.  When
they run out there is no result, and neither is there one for the first character of an empty
compatibility variant.

A level asks the one below for parts of the character only (`pushLevel_congr`), and a part has a
lower `Decomposition.rank`.  So as many levels as the rank counts are enough
(`pushWithin_of_rank_lt`), and four are enough for every character.  What comes out is what the
actions of the character do, for they are a fixed point of the recursion (`pushLevel_settled`).
-/

namespace TexGlyph

/-! ### The chains of decompositions -/

namespace Decomposition

/-- Whether a character stands in the decomposition of another one. -/
def IsPart (x c : Char) : Prop := ∃ d, of? c = some d ∧ x ∈ d.scalars

/-- **No chain of decompositions goes on forever.** -/
theorem wellFounded_isPart : WellFounded IsPart := by
  have hrank : Subrelation IsPart (InvImage (· < ·) rank) := by
    rintro x c ⟨d, hd, hx⟩
    exact rank_lt hd hx
  exact hrank.wf (measure rank).wf

theorem rank_le_three (c : Char) : rank c ≤ 3 := by
  unfold rank
  split
  · exact Nat.zero_le 3
  · split
    · exact Nat.le_of_ble_eq_true rfl
    · split
      · exact Nat.le_of_ble_eq_true rfl
      · exact le_rfl

end Decomposition

namespace Speller

/-! ### The recursion on fragments -/

section Level

/-- What spells a character onto fragments, if it comes to an end: the fragments after it and the
remarks. -/
abbrev Pusher := Char → List String → Option (List String × List Note)

variable (s : Speller) (push : Pusher)

/-- Spells characters one after the other. -/
def pushAll : List Char → List String → Option (List String × List Note)
  | [], stack => some (stack, [])
  | c :: cs, stack => do
    let (stack, remarks) ← push c stack
    let (stack, later) ← pushAll cs stack
    some (stack, remarks ++ later)

/-- Spells characters apart from the fragments so far; gives their text and the remarks. -/
def render (cs : List Char) : Option (String × List Note) := do
  let (stack, remarks) ← pushAll push cs []
  some (Action.textOf stack, remarks)

/-- Spells characters apart and writes `wrap` of their text as one fragment. -/
def pushWrapped (cs : List Char) (wrap : String → String) (stack : List String) :
    Option (List String × List Note) := do
  let (text, remarks) ← render push cs
  some (wrap text :: stack, remarks)

/-- Spells a character by its decomposition. -/
def pushDecomposition (c : Char) (stack : List String) :
    Decomposition → Option (List String × List Note)
  | .fraction numerator denominator => do
    let (above, remarks) ← render push numerator
    let (below, later) ← render push denominator
    some (fractionText above below :: stack, remarks ++ later)
  | .font base =>
    pushWrapped push [base]
      (fun text => if s.preferences.fonts then wrapFont ((charName? c).getD "") text else text)
      stack
  | .small base =>
    pushWrapped push [base] (fun text => "\x7b" ++ applied "\\scriptsize" text ++ "\x7d") stack
  | .compat scalars => do
    let first ← scalars[0]?
    if isGreekBlock first then pushWrapped push [first] variantForm stack
    else if isLigature c then pushAll push scalars stack
    else some (Action.perform (.note (.unsupportedCompat c) :: s.fallback c) stack)
  | .script .super base => pushWrapped push [base] (applied "^") stack
  | .script .sub base => pushWrapped push [base] (applied "_") stack
  | .unsupported tag => some (charFragment c :: stack, [.unsupportedTag tag c])
  | .accented base mark =>
    match accentTag? mark with
    | none => some (Action.perform (.note (.unsupportedPair c) :: s.fallback c) stack)
    | some tag =>
      if s.preferences.accents then
        pushWrapped push [base] (applied (s.preferences.accentMode.command tag)) stack
      else some (charFragment c :: stack, [])
  | .canonical scalars => pushWrapped push scalars id stack

/-- Spells a character; the level below spells the characters of its decomposition. -/
def pushLevel : Pusher := fun c stack =>
  match s.direct? c with
  | some actions => some (Action.perform actions stack)
  | none =>
    match Decomposition.of? c with
    | none => some (Action.perform (s.fallback c) stack)
    | some d => do
      let (stack, remarks) ← s.pushDecomposition push c stack d
      some (stack, .decomposing c d :: remarks)

end Level

/-- Spells a character with at most `depth` characters being spelled one inside the other. -/
def pushWithin (s : Speller) : Nat → Pusher
  | 0 => fun _ _ => none
  | depth + 1 => s.pushLevel (pushWithin s depth)

/-! ### What a level asks for -/

section Congruence

variable {s : Speller} {push push' : Pusher}

theorem pushAll_congr {cs : List Char} (h : ∀ x ∈ cs, push x = push' x) (stack : List String) :
    pushAll push cs stack = pushAll push' cs stack := by
  induction cs generalizing stack with
  | nil => rfl
  | cons c cs ih =>
    obtain ⟨hc, hcs⟩ := List.forall_mem_cons.1 h
    simp only [pushAll, hc, ih hcs]

theorem render_congr {cs : List Char} (h : ∀ x ∈ cs, push x = push' x) :
    render push cs = render push' cs := by
  rw [render, render, pushAll_congr h]

theorem pushWrapped_congr {cs : List Char} (h : ∀ x ∈ cs, push x = push' x)
    (wrap : String → String) (stack : List String) :
    pushWrapped push cs wrap stack = pushWrapped push' cs wrap stack := by
  rw [pushWrapped, pushWrapped, render_congr h]

theorem pushDecomposition_congr {d : Decomposition} (h : ∀ x ∈ d.scalars, push x = push' x)
    (c : Char) (stack : List String) :
    s.pushDecomposition push c stack d = s.pushDecomposition push' c stack d := by
  have single : ∀ base ∈ d.scalars, ∀ x ∈ [base], push x = push' x := by
    intro base hbase x hx
    exact List.mem_singleton.1 hx ▸ h base hbase
  -- Each kind of decomposition asks about its own scalars only.
  cases d with
  | font base =>
    rw [pushDecomposition, pushDecomposition, pushWrapped_congr (single base List.mem_cons_self)]
  | small base =>
    rw [pushDecomposition, pushDecomposition, pushWrapped_congr (single base List.mem_cons_self)]
  | compat scalars =>
    cases scalars with
    | nil => rfl
    | cons first rest =>
      have hall : ∀ x ∈ first :: rest, push x = push' x := h
      simp only [pushDecomposition, List.getElem?_cons_zero, Option.bind_eq_bind, Option.bind_some,
        pushWrapped_congr (single first List.mem_cons_self), pushAll_congr hall]
  | script kind base =>
    cases kind <;>
      rw [pushDecomposition, pushDecomposition, pushWrapped_congr (single base List.mem_cons_self)]
  | fraction numerator denominator =>
    rw [pushDecomposition, pushDecomposition,
      render_congr fun x hx => h x (List.mem_append_left denominator hx),
      render_congr fun x hx => h x (List.mem_append_right numerator hx)]
  | accented base mark =>
    rw [pushDecomposition, pushDecomposition]
    simp only [pushWrapped_congr (single base List.mem_cons_self)]
  | canonical scalars =>
    have hall : ∀ x ∈ scalars, push x = push' x := h
    rw [pushDecomposition, pushDecomposition, pushWrapped_congr hall]
  | unsupported tag => rfl

/-- **A level asks the level below for parts of the character only.** -/
theorem pushLevel_congr {c : Char} (h : ∀ x, Decomposition.IsPart x c → push x = push' x) :
    s.pushLevel push c = s.pushLevel push' c := by
  funext stack
  unfold pushLevel
  cases s.direct? c with
  | some actions => rfl
  | none =>
    cases hd : Decomposition.of? c with
    | none => rfl
    | some d => simp only [pushDecomposition_congr fun x hx => h x ⟨d, hd, hx⟩]

/-- Whether a character is spelled with what the level below does with another one. -/
def Asks (s : Speller) (x c : Char) : Prop :=
  ∃ push push' : Pusher, (∀ y, y ≠ x → push y = push' y) ∧ s.pushLevel push c ≠ s.pushLevel push' c

theorem isPart_of_asks {x c : Char} (h : s.Asks x c) : Decomposition.IsPart x c := by
  obtain ⟨push, push', hagree, hdiffer⟩ := h
  by_contra hpart
  refine hdiffer (pushLevel_congr fun y hy => hagree y ?_)
  rintro rfl
  exact hpart hy

end Congruence

/-! ### What comes out -/

section Settled

variable (s : Speller)

/-- What spells a character as its actions do. -/
def settled : Pusher := fun c stack => some (Action.perform (s.actions c) stack)

theorem pushAll_settled (cs : List Char) (stack : List String) :
    pushAll s.settled cs stack = some (Action.perform (cs.flatMap s.actions) stack) := by
  induction cs generalizing stack with
  | nil => rfl
  | cons c cs ih =>
    simp only [pushAll, settled, Option.bind_eq_bind, Option.bind_some, List.flatMap_cons,
      Action.perform_append]
    rw [ih]
    rfl

theorem render_settled (cs : List Char) :
    render s.settled cs = some (Action.apart (cs.flatMap s.actions)) := by
  rw [render, pushAll_settled]
  rfl

theorem pushWrapped_settled (cs : List Char) (wrap : String → String) (stack : List String) :
    pushWrapped s.settled cs wrap stack =
      some (Action.perform (Action.enclose (cs.flatMap s.actions) wrap) stack) := by
  have hperform : Action.perform (Action.enclose (cs.flatMap s.actions) wrap) stack =
      (wrap (Action.apart (cs.flatMap s.actions)).1 :: stack,
        (Action.apart (cs.flatMap s.actions)).2) := by
    rw [Action.enclose, Action.perform_append, Action.perform_map_note]
    simp [Action.perform, Action.apply, Action.notes]
  rw [pushWrapped, render_settled, hperform]
  rfl

/-- The decomposition of a character is spelled as its actions do. -/
theorem pushDecomposition_settled (c : Char) {d : Decomposition} (hd : d ≠ .compat [])
    (stack : List String) :
    s.pushDecomposition s.settled c stack d = some (Action.perform (s.rendered c d) stack) := by
  have single : ∀ x, s.actions x = [x].flatMap s.actions := by
    intro x
    rw [List.flatMap_singleton]
  cases d with
  | font base =>
    rw [rendered, decomposed, pushDecomposition, single base, pushWrapped_settled]
  | small base =>
    rw [rendered, decomposed, pushDecomposition, single base, pushWrapped_settled]
  | compat scalars =>
    cases scalars with
    | nil => exact absurd rfl hd
    | cons first rest =>
      rw [rendered, decomposed, pushDecomposition, List.getElem?_cons_zero, Option.bind_eq_bind,
        Option.bind_some]
      split
      · rw [single first, pushWrapped_settled]
      · simp only [List.flatMap_subtype, List.unattach_attach, pushAll_settled]
        -- Both sides ask whether the character is a ligature; `split` has to see them together.
        show (if isLigature c = true then _ else _) = some (Action.perform
          (if isLigature c = true then (first :: rest).flatMap s.actions else _) stack)
        split <;> rfl
  | script kind base =>
    cases kind <;> rw [rendered, decomposed, pushDecomposition, single base, pushWrapped_settled]
  | fraction numerator denominator =>
    rw [rendered, decomposed, pushDecomposition, render_settled, render_settled]
    simp only [List.flatMap_subtype, List.unattach_attach]
    rw [Action.enclosePair, Action.perform_append, Action.perform_map_note]
    simp [Action.perform, Action.apply, Action.notes, fractionText]
  | accented base mark =>
    rw [rendered, decomposed, pushDecomposition, single base]
    cases accentTag? mark with
    | none => rfl
    | some tag =>
      cases s.preferences.accents with
      | true => exact s.pushWrapped_settled [base] _ stack
      | false => rfl
  | canonical scalars =>
    rw [rendered, decomposed, pushDecomposition, pushWrapped_settled]
    simp only [List.flatMap_subtype, List.unattach_attach]
  | unsupported tag => rfl

/-- **Actions are a fixed point of the recursion.** -/
theorem pushLevel_settled : s.pushLevel s.settled = s.settled := by
  funext c stack
  unfold pushLevel
  cases hdirect : s.direct? c with
  | some actions => rw [settled, s.actions_of_direct? hdirect]
  | none =>
    cases hd : Decomposition.of? c with
    | none => rw [settled, s.actions_of_no_decomposition hdirect hd]
    | some d =>
      -- The list of a compatibility variant in the table is never empty.
      have hne : d ≠ .compat [] := by
        rintro rfl
        obtain ⟨m, _, hm⟩ := Option.bind_eq_some_iff.1 hd
        exact Decomposition.ofMapping?_ne_compat_nil m hm
      simp only [s.pushDecomposition_settled c hne]
      rw [settled, s.actions_of_decomposition hdirect hd]
      rfl

end Settled

/-! ### Enough levels -/

/-- **One level more than the rank counts is enough.** -/
theorem pushWithin_of_rank_lt (s : Speller) {c : Char} {depth : Nat}
    (h : Decomposition.rank c < depth) : s.pushWithin depth c = s.settled c := by
  induction depth generalizing c with
  | zero => exact absurd h (Nat.not_lt_zero _)
  | succ depth ih =>
    have hparts : ∀ x, Decomposition.IsPart x c → s.pushWithin depth x = s.settled x := by
      rintro x ⟨d, hd, hx⟩
      exact ih (Nat.lt_of_lt_of_le (Decomposition.rank_lt hd hx) (Nat.le_of_lt_succ h))
    rw [pushWithin, pushLevel_congr hparts, pushLevel_settled]

/-- **The recursion along decompositions ends on every character.**  Neither the table of
decompositions nor the recursion of any speller over it has a chain that goes on forever.  Whatever
the choices, the commands, the character and the fragments before it, four levels of the recursion
give a result, and it is that of the actions of the character.  And whatever text a decomposition is
read from, a compatibility variant has a first character. -/
theorem recursion_ends :
    WellFounded Decomposition.IsPart ∧ (∀ s : Speller, WellFounded s.Asks) ∧
    (∀ (s : Speller) (c : Char) (stack : List String) (more : Nat),
      s.pushWithin (4 + more) c stack = some (Action.perform (s.actions c) stack)) ∧
    ∀ text : String, Decomposition.read? text ≠ some (.compat []) := by
  refine ⟨Decomposition.wellFounded_isPart, ?asks, ?levels, ?first⟩
  case asks =>
    intro s
    exact Subrelation.wf isPart_of_asks Decomposition.wellFounded_isPart
  case levels =>
    intro s c stack more
    have hrank : Decomposition.rank c < 4 + more := by
      have hle := Decomposition.rank_le_three c
      omega
    rw [s.pushWithin_of_rank_lt hrank, settled]
  case first =>
    intro text h
    obtain ⟨m, _, hm⟩ := Option.bind_eq_some_iff.1 h
    exact Decomposition.ofMapping?_ne_compat_nil m hm

/-- Three levels are not enough for a letter with three marks. -/
example : ((Speller.mk {} {}).pushWithin 3 '\u1FD3' []).isNone = true := by decide +kernel

end Speller

end TexGlyph
