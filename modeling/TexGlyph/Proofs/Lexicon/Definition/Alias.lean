import TexGlyph.Lexicon.Definition.Alias
import TexGlyph.Proofs.Lexicon.Definition.Written

/-!
# Aliases as they are written

An alias is written as the keyword, a name and a group with the target, with blanks in the places
that the two forms have for them (`WrittenAlias`).  Reading gives back what was written, whatever
comes after it, and only what is written in this way is read (`Alias.read?_text_append`,
`Alias.exists_of_read?`).

After the keyword and its blanks, a braced name begins with a brace and a bare one with a backslash
(`Alias.head?_of_read?`).  So no place in a text has both forms (`Alias.form_eq_of_read?`).
-/

namespace TexGlyph

/-! ### What is written -/

/-- Blanks are no backslashes. -/
theorem Gap.backslash_not_mem (gap : Gap) : '\\' ∉ gap.chars :=
  fun h => absurd (gap.blank _ h) (by decide)

/-- The blanks in a text that do not end its line. -/
def Gap.ofText (text : String) : Gap where
  chars := text.toList.filter fun c => isBlank c && c != '\n'
  blank c h := (Bool.and_eq_true_iff.1 (List.mem_filter.1 h).2).1
  oneLine h := absurd (Bool.and_eq_true_iff.1 (List.mem_filter.1 h).2).2 (by decide)

/-- A command whose name is made of letters, possibly none. -/
structure LetterCommand where
  /-- The name. -/
  letters : List Char
  /-- It is made of letters. -/
  isAlpha : ∀ c ∈ letters, c.isAlpha = true

namespace LetterCommand

/-- The command that has the letters of a text for its name. -/
def ofText (text : String) : LetterCommand where
  letters := text.toList.filter Char.isAlpha
  isAlpha _ h := (List.mem_filter.1 h).2

/-- The command with its backslash. -/
def text (command : LetterCommand) : List Char := '\\' :: command.letters

/-- The command as a key. -/
def key (command : LetterCommand) : String := String.ofList command.text

/-- There is no backslash but the first one. -/
theorem backslash_not_mem (command : LetterCommand) : '\\' ∉ command.letters :=
  fun h => absurd (command.isAlpha _ h) (by decide)

end LetterCommand

/-- The name of an alias as it is written. -/
inductive WrittenName where
  /-- In braces, with blanks before the closing brace. -/
  | braced (command : LetterCommand) (gap : Gap)
  /-- Without braces. -/
  | bare (command : LetterCommand)

namespace WrittenName

/-- The form of the name. -/
def form : WrittenName → AliasForm
  | braced _ _ => .braced
  | bare _ => .bare

/-- The command that is named. -/
def command : WrittenName → LetterCommand
  | braced command _ => command
  | bare command => command

/-- The text of the name. -/
def text : WrittenName → List Char
  | braced command gap => '\x7b' :: (command.text ++ gap.chars ++ ['\x7d'])
  | bare command => command.text

end WrittenName

/-- An alias as it is written. -/
structure WrittenAlias where
  /-- The blanks after the keyword. -/
  gap : Gap
  /-- The name. -/
  name : WrittenName
  /-- The blanks around the group of the target and inside it. -/
  spacing : Spacing
  /-- The target. -/
  target : LetterCommand

/-- The keyword of aliases. -/
def Alias.keyword : List Char := ['\\', 'd', 'e', 'f']

namespace WrittenAlias

/-- The form of the alias. -/
def form (w : WrittenAlias) : AliasForm := w.name.form

/-- The alias that is written. -/
def toAlias (w : WrittenAlias) : Alias := ⟨w.name.command.key, w.target.key⟩

/-- The text of the alias. -/
def text (w : WrittenAlias) : List Char :=
  Alias.keyword ++ (w.gap.chars ++ (w.name.text ++ w.spacing.group w.target.text))

/-- An alias ends with its closing brace. -/
theorem getLast?_text (w : WrittenAlias) : w.text.getLast? = some '\x7d' := by
  simp only [text, List.getLast?_append, Spacing.getLast?_group, Option.some_or]

end WrittenAlias

namespace Alias

/-! ### The parts of an alias -/

theorem after?_eq_some_iff {c : Char} {cs rest : List Char} :
    after? c cs = some rest ↔ cs = c :: rest := by
  cases cs with
  | nil => simp [after?]
  | cons d cs =>
    rw [after?, List.cons.injEq]
    by_cases hd : d = c <;> simp [hd]

theorem afterDef?_eq_some_iff {cs rest : List Char} :
    afterDef? cs = some rest ↔ cs = keyword ++ rest := by
  simp only [afterDef?, Option.bind_eq_some_iff, after?_eq_some_iff, keyword]
  constructor
  · rintro ⟨a, rfl, b, rfl, c, rfl, rfl⟩
    rfl
  · intro h
    exact ⟨_, h, _, rfl, _, rfl, rfl⟩

/-- A command is read in front of anything but a letter. -/
theorem command?_text_append (command : LetterCommand) {rest : List Char}
    (hrest : ∀ c ∈ rest.head?, c.isAlpha = false) :
    command? (command.text ++ rest) = some (command.key, rest) := by
  obtain ⟨htake, hdrop⟩ := Token.takeWhile_dropWhile_append command.isAlpha hrest
  have hafter : after? '\\' (command.text ++ rest) = some (command.letters ++ rest) :=
    after?_eq_some_iff.2 rfl
  rw [command?, hafter, Option.map_some, htake, hdrop]
  rfl

/-- What is read as a command is one. -/
theorem exists_of_command? {cs rest : List Char} {key : String}
    (h : command? cs = some (key, rest)) :
    ∃ command : LetterCommand, command.key = key ∧ cs = command.text ++ rest := by
  obtain ⟨tail, htail, heq⟩ := Option.map_eq_some_iff.1 h
  obtain ⟨rfl, rfl⟩ := Prod.mk.inj heq
  refine ⟨⟨tail.takeWhile Char.isAlpha, fun _ => List.mem_takeWhile_imp⟩, rfl, ?_⟩
  rw [after?_eq_some_iff.1 htail, LetterCommand.text, List.cons_append,
    List.takeWhile_append_dropWhile]

/-- The blanks in front of a text within a line. -/
theorem exists_gap {cs : List Char} (h : '\n' ∉ cs) :
    ∃ gap : Gap, cs = gap.chars ++ trimStart cs := by
  have hsub : cs.takeWhile isBlank <+: cs := List.takeWhile_prefix isBlank
  exact ⟨⟨cs.takeWhile isBlank, fun _ => List.mem_takeWhile_imp, fun hmem => h (hsub.mem hmem)⟩,
    List.takeWhile_append_dropWhile.symm⟩

/-- Blanks are passed over up to a character that is not blank. -/
theorem trimStart_gap_append (gap : Gap) {c : Char} (hc : isBlank c = false) (cs : List Char) :
    trimStart (gap.chars ++ c :: cs) = c :: cs :=
  trimStart_append_of_blank gap.blank fun _ hd => Option.some.inj hd ▸ hc

/-- No letter is a blank. -/
theorem isBlank_eq_false_of_isAlpha {c : Char} (h : c.isAlpha = true) : isBlank c = false := by
  have hrange : (65 ≤ c.toNat ∧ c.toNat ≤ 90) ∨ (97 ≤ c.toNat ∧ c.toNat ≤ 122) := by
    have hcase : c.isUpper = true ∨ c.isLower = true := Bool.or_eq_true_iff.1 h
    rcases hcase with hupper | hlower
    · have hbounds : 65 ≤ c.val ∧ c.val ≤ 90 := of_decide_eq_true hupper
      exact Or.inl hbounds
    · have hbounds : (decide (97 ≤ c.val) && decide (c.val ≤ 122)) = true := hlower
      rw [Bool.and_eq_true, decide_eq_true_eq, decide_eq_true_eq] at hbounds
      exact Or.inr hbounds
  exact isBlank_eq_false_of_ascii (by omega)

/-- A command ends before blanks and a character that is no letter. -/
theorem isAlpha_head?_gap_append (gap : Gap) {c : Char} (hc : c.isAlpha = false)
    (cs : List Char) : ∀ d ∈ (gap.chars ++ c :: cs).head?, d.isAlpha = false := by
  intro d hd
  cases hchars : gap.chars with
  | nil =>
    rw [hchars] at hd
    exact Option.some.inj hd ▸ hc
  | cons b blanks =>
    rw [hchars] at hd
    obtain rfl : b = d := Option.some.inj hd
    have hblank : isBlank b = true := gap.blank b (hchars ▸ List.mem_cons_self)
    by_contra halpha
    rw [isBlank_eq_false_of_isAlpha (by simpa using halpha)] at hblank
    cases hblank

/-- A name is read in front of anything but a letter. -/
theorem name?_text_append (name : WrittenName) {rest : List Char}
    (hrest : ∀ c ∈ rest.head?, c.isAlpha = false) :
    name? name.form (name.text ++ rest) = some (name.command.key, rest) := by
  cases name with
  | bare command => exact command?_text_append command hrest
  | braced command gap =>
    have hopen : after? '\x7b' ((WrittenName.braced command gap).text ++ rest) =
        some (command.text ++ (gap.chars ++ '\x7d' :: rest)) := by
      rw [after?_eq_some_iff, WrittenName.text]
      simp
    have hcommand := command?_text_append command
      (isAlpha_head?_gap_append gap (c := '\x7d') (by decide) rest)
    have hclose : after? '\x7d' (trimStart (gap.chars ++ '\x7d' :: rest)) = some rest := by
      rw [trimStart_gap_append gap (by decide), after?_eq_some_iff]
    show name? .braced _ = _
    rw [name?, hopen, Option.bind_some, hcommand, Option.bind_some]
    simp only [hclose, Option.map_some]
    rfl

/-- A group with a command is read as the command, whatever comes after it. -/
theorem target?_group_append (spacing : Spacing) (target : LetterCommand) (rest : List Char) :
    target? (trimStart (spacing.group target.text ++ rest)) = some (target.key, rest) := by
  have hgroup : spacing.group target.text ++ rest = spacing.outside.chars ++ '\x7b' ::
      (spacing.left.chars ++ (target.text ++ (spacing.right.chars ++ '\x7d' :: rest))) := by
    simp [Spacing.group, Spacing.inside]
  have hleft : trimStart (spacing.left.chars ++
      (target.text ++ (spacing.right.chars ++ '\x7d' :: rest))) =
        target.text ++ (spacing.right.chars ++ '\x7d' :: rest) :=
    trimStart_gap_append spacing.left (by decide) _
  have hcommand := command?_text_append target
    (isAlpha_head?_gap_append spacing.right (c := '\x7d') (by decide) rest)
  have hclose : after? '\x7d' (trimStart (spacing.right.chars ++ '\x7d' :: rest)) = some rest := by
    rw [trimStart_gap_append spacing.right (by decide), after?_eq_some_iff]
  rw [hgroup, trimStart_gap_append spacing.outside (by decide), target?,
    after?_eq_some_iff.2 rfl, Option.bind_some, hleft, hcommand, Option.bind_some]
  simp only [hclose, Option.map_some]

/-! ### Aliases -/

end Alias

/-- The character that the name of an alias of a form begins with. -/
def AliasForm.opener : AliasForm → Char
  | braced => '\x7b'
  | bare => '\\'

theorem AliasForm.isBlank_opener (form : AliasForm) : isBlank form.opener = false := by
  cases form <;> decide

theorem WrittenName.exists_text_eq (name : WrittenName) :
    ∃ tail, name.text = name.form.opener :: tail := by
  cases name with
  | braced command gap => exact ⟨_, rfl⟩
  | bare command => exact ⟨_, rfl⟩

namespace Alias

/-- **What is written as an alias is read as one**, whatever comes after it. -/
theorem read?_text_append (w : WrittenAlias) (rest : List Char) :
    read? w.form (w.text ++ rest) = some (w.toAlias, rest) := by
  have htext : w.text ++ rest = keyword ++
      (w.gap.chars ++ (w.name.text ++ (w.spacing.group w.target.text ++ rest))) := by
    simp [WrittenAlias.text]
  have hstart : trimStart (w.gap.chars ++
      (w.name.text ++ (w.spacing.group w.target.text ++ rest))) =
        w.name.text ++ (w.spacing.group w.target.text ++ rest) := by
    obtain ⟨tail, htail⟩ := w.name.exists_text_eq
    rw [htail]
    exact trimStart_gap_append w.gap w.name.form.isBlank_opener _
  have hname : name? w.form (w.name.text ++ (w.spacing.group w.target.text ++ rest)) =
      some (w.name.command.key, w.spacing.group w.target.text ++ rest) := by
    refine name?_text_append w.name ?_
    rw [Spacing.group, List.append_assoc]
    exact isAlpha_head?_gap_append w.spacing.outside (by decide) _
  rw [htext, read?, afterDef?_eq_some_iff.2 rfl, Option.bind_some, hstart, hname,
    Option.bind_some]
  simp only [target?_group_append, Option.map_some]
  rfl

/-- What is read as a name is one. -/
theorem exists_of_name? {form : AliasForm} {cs rest : List Char} {key : String}
    (hline : '\n' ∉ cs) (h : name? form cs = some (key, rest)) :
    ∃ name : WrittenName, name.form = form ∧ name.command.key = key ∧ cs = name.text ++ rest := by
  cases form with
  | bare =>
    obtain ⟨command, hkey, hcs⟩ := exists_of_command? h
    exact ⟨.bare command, rfl, hkey, hcs⟩
  | braced =>
    obtain ⟨inside, hinside, h⟩ := Option.bind_eq_some_iff.1 h
    obtain ⟨⟨key', after⟩, hcommand, h⟩ := Option.bind_eq_some_iff.1 h
    obtain ⟨rest', hclose, heq⟩ := Option.map_eq_some_iff.1 h
    obtain ⟨rfl, rfl⟩ := Prod.mk.inj heq
    obtain ⟨command, hkey, rfl⟩ := exists_of_command? hcommand
    obtain rfl := after?_eq_some_iff.1 hinside
    have hafter : '\n' ∉ after := by
      simp only [List.mem_cons, List.mem_append, not_or] at hline
      exact hline.2.2
    obtain ⟨gap, hgap⟩ := exists_gap hafter
    refine ⟨.braced command gap, rfl, hkey, ?_⟩
    rw [hgap, after?_eq_some_iff.1 hclose, WrittenName.text]
    simp

/-- What is read as a target is a group with a command. -/
theorem exists_of_target? {cs rest : List Char} {key : String} (hline : '\n' ∉ cs)
    (h : target? (trimStart cs) = some (key, rest)) :
    ∃ (spacing : Spacing) (target : LetterCommand), target.key = key ∧
      cs = spacing.group target.text ++ rest := by
  -- The steps of the reader in their order: the opening brace, the command, the closing brace.
  obtain ⟨inside, hinside, h⟩ := Option.bind_eq_some_iff.1 h
  obtain ⟨⟨key', after⟩, hcommand, h⟩ := Option.bind_eq_some_iff.1 h
  obtain ⟨rest', hclose, heq⟩ := Option.map_eq_some_iff.1 h
  obtain ⟨rfl, rfl⟩ := Prod.mk.inj heq
  obtain ⟨target, hkey, htarget⟩ := exists_of_command? hcommand
  -- What was trimmed off in between are the gaps.
  obtain ⟨outside, houtside⟩ := exists_gap hline
  rw [after?_eq_some_iff.1 hinside] at houtside
  have hinner : '\n' ∉ inside := by
    rw [houtside] at hline
    simp only [List.mem_cons, List.mem_append, not_or] at hline
    exact hline.2.2
  obtain ⟨left, hleft⟩ := exists_gap hinner
  rw [htarget] at hleft
  have hafter : '\n' ∉ after := by
    rw [hleft] at hinner
    simp only [List.mem_append, not_or] at hinner
    exact hinner.2.2
  obtain ⟨right, hright⟩ := exists_gap hafter
  rw [after?_eq_some_iff.1 hclose] at hright
  refine ⟨⟨outside, left, right⟩, target, hkey, ?_⟩
  rw [houtside, hleft, hright, Spacing.group, Spacing.inside]
  simp

/-- **Only what is written as an alias is read as one.** -/
theorem exists_of_read? {form : AliasForm} {cs rest : List Char} {a : Alias} (hline : '\n' ∉ cs)
    (h : read? form cs = some (a, rest)) :
    ∃ w : WrittenAlias, w.form = form ∧ w.toAlias = a ∧ cs = w.text ++ rest := by
  obtain ⟨afterKeyword, hkeyword, h⟩ := Option.bind_eq_some_iff.1 h
  obtain ⟨⟨nameKey, afterName⟩, hname, h⟩ := Option.bind_eq_some_iff.1 h
  obtain ⟨⟨targetKey, rest'⟩, htarget, heq⟩ := Option.map_eq_some_iff.1 h
  obtain ⟨rfl, rfl⟩ := Prod.mk.inj heq
  -- What is left of the line has no line feed after each step, so that gaps can be taken off it.
  obtain rfl := afterDef?_eq_some_iff.1 hkeyword
  simp only [List.mem_append, not_or] at hline
  obtain ⟨gap, hgap⟩ := exists_gap hline.2
  have hstart : '\n' ∉ trimStart afterKeyword := by
    have hmem := hline.2
    rw [hgap, List.mem_append, not_or] at hmem
    exact hmem.2
  obtain ⟨name, hform, hnameKey, hcs⟩ := exists_of_name? hstart hname
  have hrest : '\n' ∉ afterName := by
    rw [hcs, List.mem_append, not_or] at hstart
    exact hstart.2
  obtain ⟨spacing, target, htargetKey, hgroup⟩ := exists_of_target? hrest htarget
  refine ⟨⟨gap, name, spacing, target⟩, hform, ?_, ?_⟩
  · rw [WrittenAlias.toAlias, hnameKey, htargetKey]
  · rw [hgap, hcs, hgroup, WrittenAlias.text]
    simp

/-! ### The two forms -/

/-- A name begins with the character of its form. -/
theorem head?_of_name? {form : AliasForm} {cs : List Char} {found : String × List Char}
    (h : name? form cs = some found) : cs.head? = some form.opener := by
  cases form with
  | bare =>
    obtain ⟨tail, htail, -⟩ := Option.map_eq_some_iff.1 h
    rw [after?_eq_some_iff.1 htail]
    rfl
  | braced =>
    obtain ⟨inside, hinside, -⟩ := Option.bind_eq_some_iff.1 h
    rw [after?_eq_some_iff.1 hinside]
    rfl

/-- Where an alias begins, there is the keyword, and after it blanks and the first character of the
form. -/
theorem head?_of_read? {form : AliasForm} {cs : List Char} {found : Alias × List Char}
    (h : read? form cs = some found) :
    ∃ tail, cs = keyword ++ tail ∧ (trimStart tail).head? = some form.opener := by
  obtain ⟨tail, htail, h⟩ := Option.bind_eq_some_iff.1 h
  obtain ⟨found', hname, -⟩ := Option.bind_eq_some_iff.1 h
  exact ⟨tail, afterDef?_eq_some_iff.1 htail, head?_of_name? hname⟩

/-- **No alias is read in both forms.** -/
theorem form_eq_of_read? {form form' : AliasForm} {cs : List Char}
    {found found' : Alias × List Char} (h : read? form cs = some found)
    (h' : read? form' cs = some found') : form = form' := by
  obtain ⟨tail, htail, hhead⟩ := head?_of_read? h
  obtain ⟨tail', htail', hhead'⟩ := head?_of_read? h'
  have hsame : tail = tail' := List.append_cancel_left (htail.symm.trans htail')
  have hopener : form.opener = form'.opener := by
    rw [← hsame, hhead] at hhead'
    exact Option.some.inj hhead'
  cases form <;> cases form' <;> first | rfl | exact absurd hopener (by decide)

end Alias

end TexGlyph
