import TexGlyph.Proofs.Spelling.Action
import TexGlyph.Proofs.Unicode.Mapping
import TexGlyph.Spelling.Speller

/-!
# The rules, one by one

What the spelling of a character can be is said here once, as three case distinctions: `Fallback`
for the rules after the decomposition, `Rendering` for the decomposition itself and `Spelled` for
the whole list of rules.  Proofs about all characters go by cases over `Speller.spelled`, and by
`Decomposition.scalarInduction` where the characters of a decomposition matter.

* A character that rule 4 does not take up needs nothing before it (`standsAlone_actions`).
* A character that is neither a mark with an accent command nor a ligature writes exactly one
  fragment (`exists_writesOnce_actions`).
-/

namespace TexGlyph

/-- **Induction along decompositions**: what holds of a character as soon as it holds of the
characters of its decomposition holds of every character. -/
theorem Decomposition.scalarInduction {P : Char → Prop}
    (step : ∀ c, (∀ d, of? c = some d → ∀ x ∈ d.scalars, P x) → P c) (c : Char) : P c :=
  step c fun _ hd x hx =>
    have := rank_lt hd hx
    scalarInduction step x
termination_by rank c

namespace Speller

/-- The accent command that a character puts over the fragment before it, where rule 4 is the
first that applies. -/
def overlay? (s : Speller) (c : Char) : Option String :=
  match s.direct? c with
  | some [.accent _ command] => some command
  | _ => none

variable (s : Speller)

/-! ### The rules after the decomposition -/

/-- What the rules 6 to 8 can write. -/
inductive Fallback (c : Char) : Prop where
  /-- The name is that of a Greek letter. -/
  | greek (name : String) (hname : charName? c = some name)
      (eq : s.fallback c = [.write (commandFragment ("\\" ++ greekCommand name))])
  /-- The lexicon has a command. -/
  | symbol (command : String) (hcommand : s.lexicon.canonical? c = some command)
      (hforeign : isForeign c = true)
      (eq : s.fallback c = [.note (.symbol c command), .write (commandFragment command)])
  /-- A character outside ASCII stays, with a warning. -/
  | unconvertible (hforeign : isForeign c = true)
      (eq : s.fallback c = [.note (.unconvertible c), .write (charFragment c)])
  /-- A character of ASCII stays. -/
  | ascii (hforeign : isForeign c = false) (eq : s.fallback c = [.write (charFragment c)])

theorem fallback_cases (c : Char) : s.Fallback c := by
  cases hname : (charName? c).filter fun name => "GREEK".toList.isPrefixOf name.toList with
  | some name =>
    have hsome := (Option.filter_eq_some_iff.1 hname).1
    exact .greek name hsome (by rw [fallback, hname])
  | none =>
    cases hforeign : isForeign c with
    | false =>
      refine .ascii hforeign ?_
      rw [fallback, hname]
      simp only [hforeign, Bool.false_eq_true, ↓reduceIte]
    | true =>
      cases hcommand : s.lexicon.canonical? c with
      | some command =>
        refine .symbol command hcommand hforeign ?_
        rw [fallback, hname]
        simp only [hforeign, hcommand, ↓reduceIte]
      | none =>
        refine .unconvertible hforeign ?_
        rw [fallback, hname]
        simp only [hforeign, hcommand, ↓reduceIte]

/-- A character outside ASCII that is not named as a Greek letter gets the command of the
lexicon. -/
theorem fallback_of_canonical? {c : Char} {command : String} (hforeign : isForeign c = true)
    (hname : ∀ name, charName? c = some name → ¬ "GREEK".toList <+: name.toList)
    (hcommand : s.lexicon.canonical? c = some command) :
    s.fallback c = [.note (.symbol c command), .write (commandFragment command)] := by
  have hnone : ((charName? c).filter fun name => "GREEK".toList.isPrefixOf name.toList) = none := by
    rw [Option.filter_eq_none_iff]
    intro name h hprefix
    exact hname name h (List.isPrefixOf_iff_prefix.1 hprefix)
  rw [fallback, hnone]
  simp only [hforeign, hcommand, ↓reduceIte]

theorem exists_writesOnce_fallback (c : Char) :
    ∃ fragment, Action.WritesOnce (s.fallback c) fragment := by
  cases s.fallback_cases c with
  | greek name _ eq => exact ⟨_, [], eq⟩
  | symbol command _ _ eq => exact ⟨_, [.symbol c command], eq⟩
  | unconvertible _ eq => exact ⟨_, [.unconvertible c], eq⟩
  | ascii _ eq => exact ⟨_, [], eq⟩

/-! ### The rule of the decomposition -/

/-- What can be put around the text of a decomposition. -/
inductive Wrapping : (String → String) → Prop where
  /-- Nothing. -/
  | bare : Wrapping fun text => text
  /-- The font commands that a name asks for. -/
  | font (name : String) : Wrapping (wrapFont name)
  /-- The command for small type. -/
  | small : Wrapping fun text => "\x7b" ++ applied "\\scriptsize" text ++ "\x7d"
  /-- The variant form of a command. -/
  | variant : Wrapping variantForm
  /-- A superscript. -/
  | super : Wrapping (applied "^")
  /-- A subscript. -/
  | sub : Wrapping (applied "_")
  /-- An accent command. -/
  | accent {mark tag : Char} (hmark : accentTag? mark = some tag) :
    Wrapping (applied (s.preferences.accentMode.command tag))

/-- The text of a fraction. -/
def fractionText (above below : String) : String :=
  "\x7b\\sfrac\x7b" ++ above ++ "\x7d\x7b" ++ below ++ "\x7d\x7d"

/-- What the rule of the decomposition can write. -/
inductive Rendering (c : Char) : Decomposition → List Action → Prop where
  /-- Some of the characters are spelled apart and written as one fragment. -/
  | enclosed {d : Decomposition} {chars : List Char} {wrap : String → String}
      (hsub : ∀ x ∈ chars, x ∈ d.scalars) (hwrap : s.Wrapping wrap) :
    Rendering c d (Action.enclose (chars.flatMap s.actions) wrap)
  /-- The two parts of a fraction are spelled apart and written as one fragment. -/
  | fraction (numerator denominator : List Char) :
    Rendering c (.fraction numerator denominator)
      (Action.enclosePair (numerator.flatMap s.actions) (denominator.flatMap s.actions)
        fractionText)
  /-- The characters of a ligature are spelled one after the other. -/
  | ligature (first : Char) (rest : List Char) (hname : isLigature c = true) :
    Rendering c (.compat (first :: rest)) ((first :: rest).flatMap s.actions)
  /-- The decomposition has no rendering, and the rules after it take over. -/
  | refused {d : Decomposition} (n : Note) (hn : n = .unsupportedCompat c ∨ n = .unsupportedPair c) :
    Rendering c d (.note n :: s.fallback c)
  /-- The tag has no rendering, and the character stays. -/
  | unsupported (tag : String) :
    Rendering c (.unsupported tag) [.note (.unsupportedTag tag c), .write (charFragment c)]
  /-- Accents are not wanted, and the character stays. -/
  | kept {base mark tag : Char} (hmark : accentTag? mark = some tag)
      (hoff : s.preferences.accents = false) :
    Rendering c (.accented base mark) [.write (charFragment c)]

/-- The spelling of a character by its decomposition, with the characters of the decomposition
spelled by the same speller. -/
def rendered (c : Char) (d : Decomposition) : List Action :=
  s.decomposed c d fun x _ => s.actions x

theorem rendering_rendered (c : Char) (d : Decomposition) : s.Rendering c d (s.rendered c d) := by
  -- A single base is spelled as the text of one character.
  have single : ∀ x, s.actions x = [x].flatMap s.actions := by
    intro x
    rw [List.flatMap_singleton]
  cases d with
  | font base =>
    rw [rendered, decomposed, single base]
    cases s.preferences.fonts
    · exact .enclosed (by simp [Decomposition.scalars]) .bare
    · exact .enclosed (by simp [Decomposition.scalars]) (.font _)
  | small base =>
    rw [rendered, decomposed, single base]
    exact .enclosed (by simp [Decomposition.scalars]) .small
  | compat scalars =>
    cases scalars with
    | nil => exact .refused _ (Or.inl rfl)
    | cons first rest =>
      rw [rendered, decomposed]
      split
      · rw [single first]
        exact .enclosed (by simp [Decomposition.scalars]) .variant
      · split
        · rename_i hname
          simp only [List.flatMap_subtype, List.unattach_attach]
          exact .ligature first rest hname
        · exact .refused _ (Or.inl rfl)
  | script kind base =>
    cases kind <;> rw [rendered, decomposed, single base]
    · exact .enclosed (by simp [Decomposition.scalars]) .super
    · exact .enclosed (by simp [Decomposition.scalars]) .sub
  | fraction numerator denominator =>
    rw [rendered, decomposed]
    simp only [List.flatMap_subtype, List.unattach_attach]
    exact .fraction numerator denominator
  | accented base mark =>
    rw [rendered, decomposed]
    split
    · exact .refused _ (Or.inr rfl)
    · rename_i tag hmark
      split
      · rw [single base]
        exact .enclosed (by simp [Decomposition.scalars]) (.accent hmark)
      · rename_i hoff
        exact .kept hmark (by simpa using hoff)
  | canonical scalars =>
    rw [rendered, decomposed]
    simp only [List.flatMap_subtype, List.unattach_attach]
    exact .enclosed (fun x hx => hx) .bare
  | unsupported tag => exact .unsupported tag

/-! ### All rules -/

/-- What the spelling of a character can be, by the rule that applies. -/
inductive Spelled (c : Char) : Prop where
  /-- Rule 1: an ASCII spelling. -/
  | ligature (spelling : String) (hspelling : s.ligature? c = some spelling)
      (eq : s.actions c = [.write spelling])
  /-- Rule 2: a command of the user. -/
  | overridden (command : String) (hcommand : s.preferences.overrides[c]? = some command)
      (eq : s.actions c = [.note (.overridden c command), .write (commandFragment command)])
  /-- Rule 3: a command of the lexicon. -/
  | preferred (command : String) (hcommand : s.lexicon.canonical? c = some command)
      (hforeign : isForeign c = true)
      (eq : s.actions c = [.note (.symbol c command), .write (commandFragment command)])
  /-- Rule 4: an accent over the fragment before. -/
  | overlay (tag : Char) (htag : accentTag? c = some tag)
      (hoverlay : s.overlay? c = some (s.preferences.accentMode.command tag))
      (eq : s.actions c = [.accent c (s.preferences.accentMode.command tag)])
  /-- Rule 5: the decomposition. -/
  | decomposed (d : Decomposition) (hd : Decomposition.of? c = some d) (actions : List Action)
      (hactions : s.Rendering c d actions) (eq : s.actions c = .note (.decomposing c d) :: actions)
      (hdirect : s.direct? c = none)
  /-- Rules 6 to 8: no decomposition. -/
  | fallback (hd : Decomposition.of? c = none) (eq : s.actions c = s.fallback c)
      (hdirect : s.direct? c = none)

theorem mark?_eq_none_of_accentTag? {c : Char} (h : accentTag? c = none) : s.mark? c = none := by
  rw [mark?, h]
  exact ite_self none

/-- A character with a decomposition is no mark with an accent command. -/
theorem mark?_eq_none_of_decomposition {c : Char} {d : Decomposition}
    (h : Decomposition.of? c = some d) : s.mark? c = none := by
  cases htag : accentTag? c with
  | some tag =>
    rw [Decomposition.of?_eq_none_of_accentTag? htag] at h
    cases h
  | none => exact s.mark?_eq_none_of_accentTag? htag

/-- The rules 1 to 4 are passed over when the character is no quote and no dash, has no command
of the user and no preferred one, and is no mark. -/
theorem direct?_eq_none {c : Char} (hligature : s.ligature? c = none)
    (hcommand : s.preferences.overrides[c]? = none)
    (hsymbol : (if s.preferences.preferMath then s.symbol? c else none) = none)
    (hmark : s.mark? c = none) : s.direct? c = none := by
  rw [direct?, hligature]
  simp only [hcommand, hsymbol, hmark]

/-- Rule 1 applies to a quote or a dash with an ASCII spelling. -/
theorem direct?_of_ligature {c : Char} {spelling : String}
    (hligature : s.ligature? c = some spelling) : s.direct? c = some [.write spelling] := by
  rw [direct?, hligature]

/-- Rule 2 applies to a character with a command of the user that is no quote and no dash. -/
theorem direct?_of_override {c : Char} {command : String} (hligature : s.ligature? c = none)
    (hcommand : s.preferences.overrides[c]? = some command) :
    s.direct? c = some [.note (.overridden c command), .write (commandFragment command)] := by
  rw [direct?, hligature]
  simp only [hcommand]

/-- Rule 3 applies to a character with a preferred command that is no quote and no dash and has
no command of the user. -/
theorem direct?_of_preferred {c : Char} {command : String} (hligature : s.ligature? c = none)
    (hkey : s.preferences.overrides[c]? = none)
    (hsymbol : (if s.preferences.preferMath then s.symbol? c else none) = some command) :
    s.direct? c = some [.note (.symbol c command), .write (commandFragment command)] := by
  rw [direct?, hligature]
  simp only [hkey, hsymbol]

/-- Rule 4 applies to a mark that the rules before pass over. -/
theorem direct?_of_mark {c tag : Char} (hligature : s.ligature? c = none)
    (hcommand : s.preferences.overrides[c]? = none)
    (hsymbol : (if s.preferences.preferMath then s.symbol? c else none) = none)
    (hmark : s.mark? c = some tag) :
    s.direct? c = some [.accent c (s.preferences.accentMode.command tag)] := by
  rw [direct?, hligature]
  simp only [hcommand, hsymbol, hmark]

theorem actions_of_direct? {c : Char} {actions : List Action}
    (h : s.direct? c = some actions) : s.actions c = actions := by
  rw [Speller.actions, h]

theorem actions_of_decomposition {c : Char} {d : Decomposition} (h : s.direct? c = none)
    (hd : Decomposition.of? c = some d) :
    s.actions c = .note (.decomposing c d) :: s.rendered c d := by
  rw [Speller.actions, h]
  simp only
  split
  · rename_i hnone
    rw [hd] at hnone
    cases hnone
  · rename_i d' hd'
    obtain rfl : d = d' := Option.some.inj (hd.symm.trans hd')
    rfl

theorem actions_of_no_decomposition {c : Char} (h : s.direct? c = none)
    (hd : Decomposition.of? c = none) : s.actions c = s.fallback c := by
  rw [Speller.actions, h]
  simp only
  split
  · rfl
  · rename_i d' hd'
    rw [hd] at hd'
    cases hd'

theorem spelled (c : Char) : s.Spelled c := by
  -- The rules in their order; each case assumes that the rules before it said nothing.
  cases hligature : s.ligature? c with
  | some spelling =>
    exact .ligature spelling hligature (s.actions_of_direct? (s.direct?_of_ligature hligature))
  | none =>
  cases hcommand : s.preferences.overrides[c]? with
  | some command =>
    exact .overridden command hcommand
      (s.actions_of_direct? (s.direct?_of_override hligature hcommand))
  | none =>
  cases hsymbol : if s.preferences.preferMath then s.symbol? c else none with
  | some command =>
    have hcanonical : isForeign c = true ∧ s.lexicon.canonical? c = some command := by
      rw [Option.ite_none_right_eq_some, symbol?, Option.ite_none_right_eq_some] at hsymbol
      exact hsymbol.2
    exact .preferred command hcanonical.2 hcanonical.1
      (s.actions_of_direct? (s.direct?_of_preferred hligature hcommand hsymbol))
  | none =>
  cases hmark : s.mark? c with
  | some tag =>
    have htag : accentTag? c = some tag := by
      rw [mark?, Option.ite_none_right_eq_some] at hmark
      exact hmark.2
    have hdirect := s.direct?_of_mark hligature hcommand hsymbol hmark
    exact .overlay tag htag (by rw [overlay?, hdirect]) (s.actions_of_direct? hdirect)
  | none =>
  have hdirect := s.direct?_eq_none hligature hcommand hsymbol hmark
  cases hd : Decomposition.of? c with
  | some d =>
    exact .decomposed d hd _ (s.rendering_rendered c d) (s.actions_of_decomposition hdirect hd)
      hdirect
  | none => exact .fallback hd (s.actions_of_no_decomposition hdirect hd) hdirect

/-! ### What a character needs before it -/

theorem actions_of_overlay? {c : Char} {command : String} (h : s.overlay? c = some command) :
    ∃ mark, s.actions c = [.accent mark command] := by
  unfold overlay? at h
  split at h
  · rename_i mark command' hdirect
    obtain rfl : command' = command := Option.some.inj h
    exact ⟨mark, s.actions_of_direct? hdirect⟩
  · cases h

theorem overlay?_eq_none_of_accentTag? {c : Char} (h : accentTag? c = none) :
    s.overlay? c = none := by
  rw [overlay?, direct?, s.mark?_eq_none_of_accentTag? h]
  cases s.ligature? c with
  | some spelling => rfl
  | none =>
  cases s.preferences.overrides[c]? with
  | some command => rfl
  | none => cases if s.preferences.preferMath then s.symbol? c else none <;> rfl

/-- **A character that rule 4 does not take up needs nothing before it.** -/
theorem standsAlone_actions {c : Char} (h : s.overlay? c = none) :
    Action.StandsAlone (s.actions c) := by
  induction c using Decomposition.scalarInduction with
  | step c ih =>
  cases s.spelled c with
  | ligature spelling _ eq => exact ⟨[], spelling, [], eq⟩
  | overridden command _ eq => exact ⟨[.overridden c command], _, [], eq⟩
  | preferred command _ _ eq => exact ⟨[.symbol c command], _, [], eq⟩
  | overlay tag _ hoverlay _ =>
    rw [hoverlay] at h
    cases h
  | decomposed d hd actions hactions eq =>
    -- Whatever is spelled apart is written as one fragment, whether it has marks in it or not.
    rw [eq]
    apply Action.StandsAlone.note_cons
    cases hactions with
    | enclosed => exact (Action.writesOnce_enclose _ _).standsAlone
    | fraction => exact (Action.writesOnce_enclosePair _ _ _).standsAlone
    | ligature first rest hname =>
      -- The first character of a ligature is no mark, and the others come after it.
      have hfirst := Decomposition.accentTag?_eq_none_of_mem_ligature hd hname
        (List.mem_cons_self (a := first))
      rw [List.flatMap_cons]
      exact (ih _ hd first List.mem_cons_self
        (s.overlay?_eq_none_of_accentTag? hfirst)).append _
    | refused n _ =>
      obtain ⟨fragment, hfragment⟩ := s.exists_writesOnce_fallback c
      exact hfragment.standsAlone.note_cons n
    | unsupported tag => exact ⟨[.unsupportedTag tag c], _, [], rfl⟩
    | kept => exact ⟨[], _, [], rfl⟩
  | fallback _ eq =>
    obtain ⟨fragment, hfragment⟩ := s.exists_writesOnce_fallback c
    rw [eq]
    exact hfragment.standsAlone

/-- A character that is neither a mark with an accent command nor a ligature writes one
fragment. -/
theorem exists_writesOnce_actions {c : Char} (hmark : accentTag? c = none)
    (hligature : ∀ scalars, Decomposition.of? c = some (.compat scalars) → isLigature c = false) :
    ∃ fragment, Action.WritesOnce (s.actions c) fragment := by
  cases s.spelled c with
  | ligature spelling _ eq => exact ⟨spelling, [], eq⟩
  | overridden command _ eq => exact ⟨_, [.overridden c command], eq⟩
  | preferred command _ _ eq => exact ⟨_, [.symbol c command], eq⟩
  | overlay tag htag _ _ =>
    rw [hmark] at htag
    cases htag
  | decomposed d hd actions hactions eq =>
    rw [eq]
    cases hactions with
    | enclosed => exact ⟨_, (Action.writesOnce_enclose _ _).note_cons _⟩
    | fraction => exact ⟨_, (Action.writesOnce_enclosePair _ _ _).note_cons _⟩
    | ligature first rest hname =>
      rw [hligature _ hd] at hname
      cases hname
    | refused n _ =>
      obtain ⟨fragment, hfragment⟩ := s.exists_writesOnce_fallback c
      exact ⟨fragment, (hfragment.note_cons n).note_cons _⟩
    | unsupported tag => exact ⟨_, [_, .unsupportedTag tag c], rfl⟩
    | kept => exact ⟨_, [_], rfl⟩
  | fallback _ eq =>
    rw [eq]
    exact s.exists_writesOnce_fallback c

end Speller

end TexGlyph
