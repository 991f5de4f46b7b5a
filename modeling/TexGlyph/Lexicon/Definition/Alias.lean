import TexGlyph.Text.Blank

/-!
# Aliases

An alias makes one command accept what another stands for.  There are two forms, and a line may
hold any number of each:

    \def{\name}{\target}
    \def\name{\target}

The names are ASCII letters after a backslash, possibly none.  Blanks may stand after `\def`,
before the second group and inside it, and after the first name.
-/

namespace TexGlyph

/-- One command that accepts the characters of another. -/
structure Alias where
  /-- The command that is defined. -/
  name : String
  /-- The command it is defined by. -/
  target : String
deriving DecidableEq, Repr

/-- How the name of an alias is written. -/
inductive AliasForm where
  /-- In braces. -/
  | braced
  /-- Without braces. -/
  | bare
deriving DecidableEq, Repr

namespace Alias

/-- The text after a given character in front. -/
def after? (c : Char) : List Char → Option (List Char)
  | [] => none
  | d :: cs => if d = c then some cs else none

/-- A command in front of a text, and what follows it. -/
def command? (cs : List Char) : Option (String × List Char) :=
  (after? '\\' cs).map fun cs =>
    (String.ofList ('\\' :: cs.takeWhile Char.isAlpha), cs.dropWhile Char.isAlpha)

/-- The text after `\def` in front. -/
def afterDef? (cs : List Char) : Option (List Char) :=
  (after? '\\' cs).bind fun cs =>
  (after? 'd' cs).bind fun cs =>
  (after? 'e' cs).bind fun cs =>
  after? 'f' cs

/-- The name of an alias in front of a text. -/
def name? : AliasForm → List Char → Option (String × List Char)
  | .braced, cs =>
    (after? '\x7b' cs).bind fun cs =>
    (command? cs).bind fun (name, cs) =>
    (after? '\x7d' (trimStart cs)).map fun cs => (name, cs)
  | .bare, cs => command? cs

/-- The target of an alias, a group in front of a text. -/
def target? (cs : List Char) : Option (String × List Char) :=
  (after? '\x7b' cs).bind fun cs =>
  (command? (trimStart cs)).bind fun (target, cs) =>
  (after? '\x7d' (trimStart cs)).map fun cs => (target, cs)

/-- An alias of the given form in front of a text, and what follows it. -/
def read? (form : AliasForm) (cs : List Char) : Option (Alias × List Char) :=
  (afterDef? cs).bind fun cs =>
  (name? form (trimStart cs)).bind fun (name, cs) =>
  (target? (trimStart cs)).map fun (target, cs) => (⟨name, target⟩, cs)

/-! ### What is read is gone -/

theorem length_of_after? {c : Char} {cs rest : List Char} (h : after? c cs = some rest) :
    rest.length < cs.length := by
  cases cs with
  | nil => simp [after?] at h
  | cons d cs => grind [after?]

theorem length_of_command? {cs rest : List Char} {name : String}
    (h : command? cs = some (name, rest)) : rest.length < cs.length := by
  simp only [command?, Option.map_eq_some_iff, Prod.mk.injEq] at h
  obtain ⟨tail, htail, _, rfl⟩ := h
  have h₁ := length_of_after? htail
  have h₂ := length_dropWhile_le Char.isAlpha tail
  omega

theorem length_trimStart_le (cs : List Char) : (trimStart cs).length ≤ cs.length :=
  length_dropWhile_le isBlank cs

theorem length_of_afterDef? {cs rest : List Char} (h : afterDef? cs = some rest) :
    rest.length < cs.length := by
  simp only [afterDef?, Option.bind_eq_some_iff] at h
  obtain ⟨a, ha, b, hb, c, hc, hd⟩ := h
  have := length_of_after? ha
  have := length_of_after? hb
  have := length_of_after? hc
  have := length_of_after? hd
  omega

theorem length_of_name? {form : AliasForm} {cs rest : List Char} {name : String}
    (h : name? form cs = some (name, rest)) : rest.length < cs.length := by
  cases form with
  | bare => exact length_of_command? h
  | braced =>
    simp only [name?, Option.bind_eq_some_iff, Option.map_eq_some_iff, Prod.exists,
      Prod.mk.injEq] at h
    obtain ⟨a, ha, n, b, hb, c, hc, _, rfl⟩ := h
    have := length_of_after? ha
    have := length_of_command? hb
    have := length_of_after? hc
    have := length_trimStart_le b
    omega

theorem length_of_target? {cs rest : List Char} {target : String}
    (h : target? cs = some (target, rest)) : rest.length < cs.length := by
  simp only [target?, Option.bind_eq_some_iff, Option.map_eq_some_iff, Prod.exists,
    Prod.mk.injEq] at h
  obtain ⟨a, ha, n, b, hb, c, hc, _, rfl⟩ := h
  have := length_of_after? ha
  have := length_trimStart_le a
  have := length_of_command? hb
  have := length_of_after? hc
  have := length_trimStart_le b
  omega

theorem length_of_read? {form : AliasForm} {cs rest : List Char} {a : Alias}
    (h : read? form cs = some (a, rest)) : rest.length < cs.length := by
  simp only [read?, Option.bind_eq_some_iff, Option.map_eq_some_iff, Prod.exists,
    Prod.mk.injEq] at h
  obtain ⟨x, hx, n, y, hy, t, z, hz, _, rfl⟩ := h
  have := length_of_afterDef? hx
  have := length_trimStart_le x
  have := length_of_name? hy
  have := length_trimStart_le y
  have := length_of_target? hz
  omega

/-- The aliases of one form in a text, from left to right, without overlaps. -/
def all (form : AliasForm) : List Char → List Alias
  | [] => []
  | c :: cs =>
    match h : read? form (c :: cs) with
    | some (a, rest) =>
      have := length_of_read? h
      a :: all form rest
    | none => all form cs
termination_by cs => cs.length
decreasing_by
  · exact this
  · exact Nat.lt_succ_self cs.length

/-- The aliases of a line: those with a braced name come first. -/
def ofLine (line : List Char) : List Alias := all .braced line ++ all .bare line

end Alias

end TexGlyph
