import TexGlyph.Proofs.Lexicon.Definition.Alias

/-!
# The places of aliases in a line

The reader of aliases looks at one place after the other and goes on after an alias that it has
read, so it could miss one that begins inside another.  There is none.  Inside an alias there are two
more backslashes, that of the name and that of the target, and a keyword there would be followed by
a closing brace or, after a bare name, by an opening one, where an alias of the same form has
neither (`beginsNone_inside_self`).  So the aliases that are read are those of all places
(`map_snd_occurrences`), from left to right (`areOccurrences`), and no place has two
(`place_ne_of_mem_occurrences`).

An alias of the other form can begin inside an alias only with a bare name that is the keyword
itself, if a group comes after the alias (`beginsNone_of_ne`).
-/

namespace TexGlyph.Alias

/-! ### Passing over a text -/

/-- Whether no alias of a form begins in a text that `rest` comes after. -/
def BeginsNone (form : AliasForm) : List Char → List Char → Prop
  | [], _ => True
  | c :: cs, rest => read? form (c :: cs ++ rest) = none ∧ BeginsNone form cs rest

theorem BeginsNone.append {form : AliasForm} {a b rest : List Char}
    (ha : BeginsNone form a (b ++ rest)) (hb : BeginsNone form b rest) :
    BeginsNone form (a ++ b) rest := by
  induction a with
  | nil => exact hb
  | cons c a ih =>
    rw [List.cons_append]
    refine ⟨?_, ih ha.2⟩
    rw [← List.cons_append, List.append_assoc]
    exact ha.1

/-- An alias begins with a backslash. -/
theorem read?_eq_none_of_head? {form : AliasForm} {cs : List Char} (h : cs.head? ≠ some '\\') :
    read? form cs = none := by
  cases hread : read? form cs with
  | none => rfl
  | some found =>
    obtain ⟨tail, rfl, -⟩ := head?_of_read? hread
    exact absurd rfl h

theorem BeginsNone.of_not_mem (form : AliasForm) {cs : List Char} (h : '\\' ∉ cs)
    (rest : List Char) : BeginsNone form cs rest := by
  induction cs with
  | nil => trivial
  | cons c cs ih =>
    rw [List.mem_cons, not_or] at h
    refine ⟨read?_eq_none_of_head? ?_, ih h.2⟩
    intro hhead
    exact h.1 (Option.some.inj hhead).symm

/-- A character at which no alias begins is passed over. -/
theorem all_cons_of_read?_eq_none {form : AliasForm} {c : Char} {cs : List Char}
    (h : read? form (c :: cs) = none) : all form (c :: cs) = all form cs := by
  rw [all]
  split
  · rename_i hread
    rw [h] at hread
    cases hread
  · rfl

/-- A text in which no alias begins is passed over. -/
theorem all_append {form : AliasForm} {cs rest : List Char} (h : BeginsNone form cs rest) :
    all form (cs ++ rest) = all form rest := by
  induction cs with
  | nil => rfl
  | cons c cs ih =>
    have hnone : read? form (c :: (cs ++ rest)) = none := h.1
    rw [List.cons_append, all_cons_of_read?_eq_none hnone]
    exact ih h.2

/-- An alias is taken, and what comes after it is read on. -/
theorem all_of_read? {form : AliasForm} {cs rest : List Char} {a : Alias}
    (h : read? form cs = some (a, rest)) : all form cs = a :: all form rest := by
  obtain ⟨tail, rfl, -⟩ := head?_of_read? h
  rw [keyword, List.cons_append, all]
  split
  · rename_i hread
    obtain ⟨rfl, rfl⟩ := Prod.mk.inj (Option.some.inj (hread.symm.trans h))
    rfl
  · rename_i hread
    rw [show keyword ++ tail = _ from rfl, keyword, List.cons_append, hread] at h
    cases h

/-! ### Inside an alias -/

theorem isAlpha_opener (form : AliasForm) : form.opener.isAlpha = false := by
  cases form <;> decide

/-- A command in front of anything but a letter begins with the keyword if its name does. -/
theorem exists_of_keyword_append {command : LetterCommand} {rest tail : List Char}
    (hrest : ∀ c ∈ rest.head?, c.isAlpha = false) (h : command.text ++ rest = keyword ++ tail) :
    ∃ more, command.text = keyword ++ more ∧ (∀ c ∈ more, c.isAlpha = true) ∧
      tail = more ++ rest := by
  have hletters : command.letters ++ rest = 'd' :: 'e' :: 'f' :: tail := (List.cons.inj h).2
  obtain ⟨htake, hdrop⟩ := Token.takeWhile_dropWhile_append command.isAlpha hrest
  rw [hletters] at htake hdrop
  refine ⟨tail.takeWhile Char.isAlpha, ?_, fun _ => List.mem_takeWhile_imp, ?_⟩
  · rw [LetterCommand.text, ← htake]
    rfl
  · have hrest' : tail.dropWhile Char.isAlpha = rest := hdrop
    rw [← hrest', List.takeWhile_append_dropWhile]

/-- An alias that begins with a command in front of anything but a letter has the keyword for the
command, if no letter begins a name. -/
theorem command_eq_keyword {form : AliasForm} {command : LetterCommand} {rest : List Char}
    {found : Alias × List Char} (hrest : ∀ c ∈ rest.head?, c.isAlpha = false)
    (h : read? form (command.text ++ rest) = some found) :
    command.text = keyword ∧ (trimStart rest).head? = some form.opener := by
  obtain ⟨tail, htail, hhead⟩ := head?_of_read? h
  obtain ⟨more, hmore, halpha, rfl⟩ := exists_of_keyword_append hrest htail
  cases more with
  | nil => exact ⟨hmore, hhead⟩
  | cons c more =>
    have hc : c.isAlpha = true := halpha c List.mem_cons_self
    have hstart : trimStart (c :: more ++ rest) = c :: (more ++ rest) :=
      List.dropWhile_cons_of_neg (by simp [isBlank_eq_false_of_isAlpha hc])
    rw [hstart] at hhead
    obtain rfl : c = form.opener := Option.some.inj hhead
    rw [isAlpha_opener] at hc
    cases hc

/-- A command that is followed by a character that begins no name of a form is no alias of the form,
even if it is the keyword. -/
theorem read?_command_append_eq_none {form : AliasForm} (command : LetterCommand) (gap : Gap)
    {c : Char} (hblank : isBlank c = false) (halpha : c.isAlpha = false) (hc : c ≠ form.opener)
    (rest : List Char) : read? form (command.text ++ (gap.chars ++ c :: rest)) = none := by
  cases hread : read? form (command.text ++ (gap.chars ++ c :: rest)) with
  | none => rfl
  | some found =>
    obtain ⟨-, hhead⟩ := command_eq_keyword (isAlpha_head?_gap_append gap halpha rest) hread
    rw [trimStart_gap_append gap hblank] at hhead
    exact absurd (Option.some.inj hhead) hc

/-- What is read as a braced name is read as a target, too. -/
theorem target?_of_name? {cs : List Char} {found : String × List Char}
    (h : name? .braced cs = some found) : target? cs = some found := by
  obtain ⟨inside, hinside, h⟩ := Option.bind_eq_some_iff.1 h
  obtain ⟨⟨key, after⟩, hcommand, hclose⟩ := Option.bind_eq_some_iff.1 h
  have hstart : trimStart inside = inside := by
    obtain ⟨command, -, rfl⟩ := exists_of_command? hcommand
    exact List.dropWhile_cons_of_neg (by decide)
  rw [target?, hinside, Option.bind_some, hstart, hcommand, Option.bind_some]
  exact hclose

/-- A bare alias for the keyword itself holds no braced alias, if no group comes after it. -/
theorem read?_braced_eq_none {command target : LetterCommand} {spacing : Spacing}
    {rest : List Char} (h : command.text = keyword → target? (trimStart rest) = none) :
    read? .braced (command.text ++ (spacing.group target.text ++ rest)) = none := by
  cases hread : read? .braced (command.text ++ (spacing.group target.text ++ rest)) with
  | none => rfl
  | some found =>
    have hgroup : ∀ c ∈ (spacing.group target.text ++ rest).head?, c.isAlpha = false := by
      rw [Spacing.group, List.append_assoc]
      exact isAlpha_head?_gap_append spacing.outside (by decide) _
    obtain ⟨hkeyword, -⟩ := command_eq_keyword hgroup hread
    rw [hkeyword, read?, afterDef?_eq_some_iff.2 rfl, Option.bind_some] at hread
    obtain ⟨⟨key, after⟩, hname, hread⟩ := Option.bind_eq_some_iff.1 hread
    obtain ⟨found', htarget, -⟩ := Option.map_eq_some_iff.1 hread
    -- The braced name would be the group of the target, and the target what comes after it.
    have hsame := target?_of_name? hname
    rw [target?_group_append] at hsame
    obtain ⟨-, rfl⟩ := Prod.mk.inj (Option.some.inj hsame)
    rw [h hkeyword] at htarget
    cases htarget

/-- No alias begins in a command, if none begins with it. -/
theorem BeginsNone.command {form : AliasForm} {command : LetterCommand} {rest : List Char}
    (h : read? form (command.text ++ rest) = none) : BeginsNone form command.text rest :=
  ⟨h, .of_not_mem form command.backslash_not_mem rest⟩

/-- No alias begins in a group with a command. -/
theorem BeginsNone.group (form : AliasForm) (spacing : Spacing) (target : LetterCommand)
    (rest : List Char) : BeginsNone form (spacing.group target.text) rest := by
  have hgroup : spacing.group target.text = (spacing.outside.chars ++ '\x7b' :: spacing.left.chars) ++
      (target.text ++ (spacing.right.chars ++ ['\x7d'])) := by
    simp [Spacing.group, Spacing.inside]
  have hclose : read? form (target.text ++ (spacing.right.chars ++ ['\x7d'] ++ rest)) = none := by
    rw [List.append_assoc]
    refine read?_command_append_eq_none target spacing.right (by decide) (by decide) ?_ rest
    cases form <;> decide
  rw [hgroup]
  refine .append (.of_not_mem form ?_ _) (.append (.command hclose) (.of_not_mem form ?_ _))
  · simp [spacing.outside.backslash_not_mem, spacing.left.backslash_not_mem]
  · simp [spacing.right.backslash_not_mem]

/-- No alias begins in a name, if none of its form begins with a bare name. -/
theorem BeginsNone.name (form : AliasForm) (name : WrittenName) {rest : List Char}
    (h : name.form = .bare → read? form (name.text ++ rest) = none) :
    BeginsNone form name.text rest := by
  cases name with
  | bare command => exact .command (h rfl)
  | braced command gap =>
    have hclose : read? form (command.text ++ (gap.chars ++ ['\x7d'] ++ rest)) = none := by
      rw [List.append_assoc]
      refine read?_command_append_eq_none command gap (by decide) (by decide) ?_ rest
      cases form <;> decide
    have htext : (WrittenName.braced command gap).text =
        ['\x7b'] ++ (command.text ++ (gap.chars ++ ['\x7d'])) := by
      simp [WrittenName.text]
    rw [htext]
    refine .append (.of_not_mem form (by decide) _)
      (.append (.command hclose) (.of_not_mem form ?_ _))
    simp [gap.backslash_not_mem]

/-- **No alias of a form begins inside an alias**, if none begins with its name. -/
theorem beginsNone_inside {form : AliasForm} (w : WrittenAlias) {rest : List Char}
    (h : w.form = .bare →
      read? form (w.name.text ++ (w.spacing.group w.target.text ++ rest)) = none) :
    BeginsNone form w.text.tail rest := by
  have htail : w.text.tail =
      (['d', 'e', 'f'] ++ w.gap.chars) ++ (w.name.text ++ w.spacing.group w.target.text) := by
    simp [WrittenAlias.text, keyword]
  rw [htail]
  refine .append (.of_not_mem form ?_ _) (.append (.name form w.name h)
    (.group form w.spacing w.target rest))
  simp [w.gap.backslash_not_mem]

/-- No alias begins inside another one of its form. -/
theorem beginsNone_inside_self (w : WrittenAlias) (rest : List Char) :
    BeginsNone w.form w.text.tail rest := by
  refine beginsNone_inside w fun hform => ?_
  cases hname : w.name with
  | braced command gap =>
    rw [WrittenAlias.form, hname] at hform
    cases hform
  | bare command =>
    rw [hform, Spacing.group, List.append_assoc]
    exact read?_command_append_eq_none command w.spacing.outside (by decide) (by decide)
      (by decide) _

/-- No alias of the other form begins in an alias, unless it is a bare one for the keyword with a
group after it. -/
theorem beginsNone_of_ne {form : AliasForm} (w : WrittenAlias) {rest : List Char}
    (hform : w.form ≠ form) (h : w.name.text = keyword → target? (trimStart rest) = none) :
    BeginsNone form w.text rest := by
  have hstart : read? form (w.text ++ rest) = none := by
    cases hread : read? form (w.text ++ rest) with
    | none => rfl
    | some found => exact absurd (form_eq_of_read? (read?_text_append w rest) hread) hform
  refine ⟨hstart, beginsNone_inside w fun hbare => ?_⟩
  cases hname : w.name with
  | braced command gap =>
    rw [WrittenAlias.form, hname] at hbare
    cases hbare
  | bare command =>
    cases form with
    | bare => exact absurd hbare hform
    | braced =>
      rw [hname] at h
      exact read?_braced_eq_none h

/-! ### Every place of a line -/

/-- The aliases of a form that begin at any place of a text, with the numbers of the places, of which
`place` is the first. -/
def occurrences (form : AliasForm) (place : Nat) : List Char → List (Nat × Alias)
  | [] => []
  | c :: cs =>
    match read? form (c :: cs) with
    | some (a, _) => (place, a) :: occurrences form (place + 1) cs
    | none => occurrences form (place + 1) cs

/-- A text in which no alias begins has no places. -/
theorem occurrences_append {form : AliasForm} {cs rest : List Char} (h : BeginsNone form cs rest)
    (place : Nat) :
    occurrences form place (cs ++ rest) = occurrences form (place + cs.length) rest := by
  induction cs generalizing place with
  | nil => rfl
  | cons c cs ih =>
    have hnone : read? form (c :: (cs ++ rest)) = none := h.1
    rw [List.cons_append, occurrences, hnone]
    simp only [ih h.2, List.length_cons]
    rw [Nat.add_assoc, Nat.add_comm 1]

/-- **Every alias of a line is found**: none begins inside another one of its form, so reading on
after an alias passes over none. -/
theorem map_snd_occurrences {form : AliasForm} {line : List Char} (hline : '\n' ∉ line)
    (place : Nat) : (occurrences form place line).map Prod.snd = all form line := by
  fun_induction all form line generalizing place with
  | case1 => rfl
  | case2 c cs a rest hread hlt ih =>
    obtain ⟨w, rfl, rfl, hcs⟩ := exists_of_read? hline hread
    have htail : cs = w.text.tail ++ rest := congrArg List.tail hcs
    have hrest : '\n' ∉ rest := by
      rw [hcs, List.mem_append, not_or] at hline
      exact hline.2
    -- The occurrences are looked for at every place, also inside the alias.
    have hinside := occurrences_append (beginsNone_inside_self w rest) (place + 1)
    rw [← htail] at hinside
    rw [occurrences, hread]
    simp only [List.map_cons, hinside, ih hrest]
  | case3 c cs hread ih =>
    rw [occurrences, hread]
    exact ih (fun hmem => hline (List.mem_cons_of_mem c hmem)) (place + 1)

/-- An alias is among the occurrences exactly if it begins at its place. -/
theorem mem_occurrences_iff {form : AliasForm} {place p : Nat} {line : List Char} {a : Alias} :
    (p, a) ∈ occurrences form place line ↔
      ∃ front back rest, line = front ++ back ∧ p = place + front.length ∧
        read? form back = some (a, rest) := by
  induction line generalizing place with
  | nil =>
    constructor
    · intro h
      cases h
    · rintro ⟨front, back, rest, hline, -, hread⟩
      obtain ⟨-, rfl⟩ := List.append_eq_nil_iff.1 hline.symm
      cases hread
  | cons c cs ih =>
    -- An alias begins at the first place or at a later one.
    have hlater : (∃ front back rest, c :: cs = front ++ back ∧ p = place + front.length ∧
          read? form back = some (a, rest)) ↔
        (p = place ∧ ∃ rest, read? form (c :: cs) = some (a, rest)) ∨
          (p, a) ∈ occurrences form (place + 1) cs := by
      rw [ih]
      constructor
      · rintro ⟨front, back, rest, hline, hp, hread⟩
        cases front with
        | nil => exact Or.inl ⟨hp, rest, hline ▸ hread⟩
        | cons d front =>
          obtain ⟨rfl, hcs⟩ := List.cons.inj hline
          refine Or.inr ⟨front, back, rest, hcs, ?_, hread⟩
          rw [List.length_cons] at hp
          omega
      · rintro (⟨hp, rest, hread⟩ | ⟨front, back, rest, hcs, hp, hread⟩)
        · exact ⟨[], c :: cs, rest, rfl, hp, hread⟩
        · refine ⟨c :: front, back, rest, congrArg (List.cons c) hcs, ?_, hread⟩
          rw [List.length_cons]
          omega
    rw [hlater, occurrences]
    cases hread : read? form (c :: cs) with
    | none => simp
    | some found =>
      obtain ⟨a', rest⟩ := found
      simp [eq_comm]

/-- The places are numbered from left to right. -/
theorem pairwise_occurrences (form : AliasForm) (place : Nat) (line : List Char) :
    ((occurrences form place line).map Prod.fst).Pairwise (· < ·) := by
  induction line generalizing place with
  | nil => exact List.Pairwise.nil
  | cons c cs ih =>
    rw [occurrences]
    cases read? form (c :: cs) with
    | none => exact ih (place + 1)
    | some found =>
      refine List.pairwise_cons.2 ⟨fun p hp => ?_, ih (place + 1)⟩
      obtain ⟨⟨p', a⟩, hmem, rfl⟩ := List.mem_map.1 hp
      obtain ⟨front, -, -, -, hplace, -⟩ := mem_occurrences_iff.1 hmem
      show place < p'
      omega

/-- Whether these are the aliases of a form in a line, from left to right, each with the number of
characters in front of it. -/
structure AreOccurrences (form : AliasForm) (line : List Char) (found : List (Nat × Alias)) :
    Prop where
  /-- They are in the order of their places. -/
  ordered : (found.map Prod.fst).Pairwise (· < ·)
  /-- They are those that are written at their places. -/
  mem_iff : ∀ place a, (place, a) ∈ found ↔
    ∃ (front rest : List Char) (w : WrittenAlias), line = front ++ (w.text ++ rest) ∧
      front.length = place ∧ w.form = form ∧ w.toAlias = a

theorem areOccurrences (form : AliasForm) {line : List Char} (hline : '\n' ∉ line) :
    AreOccurrences form line (occurrences form 0 line) where
  ordered := pairwise_occurrences form 0 line
  mem_iff place a := by
    rw [mem_occurrences_iff]
    constructor
    · rintro ⟨front, back, rest, rfl, hplace, hread⟩
      rw [List.mem_append, not_or] at hline
      obtain ⟨w, hform, halias, rfl⟩ := exists_of_read? hline.2 hread
      exact ⟨front, rest, w, rfl, by omega, hform, halias⟩
    · rintro ⟨front, rest, w, hcs, hplace, rfl, rfl⟩
      exact ⟨front, w.text ++ rest, rest, hcs, by omega, read?_text_append w rest⟩

/-- No place of a line has aliases of both forms. -/
theorem place_ne_of_mem_occurrences {line : List Char} :
    ∀ p ∈ (occurrences .braced 0 line).map Prod.fst,
      ∀ p' ∈ (occurrences .bare 0 line).map Prod.fst, p ≠ p' := by
  intro p hbraced p' hbare hsame
  obtain ⟨⟨_, a⟩, hmem, rfl⟩ := List.mem_map.1 hbraced
  obtain ⟨⟨_, a'⟩, hmem', rfl⟩ := List.mem_map.1 hbare
  obtain ⟨front, back, rest, hline, hlength, hread⟩ := mem_occurrences_iff.1 hmem
  obtain ⟨front', back', rest', hline', hlength', hread'⟩ := mem_occurrences_iff.1 hmem'
  have hfronts : front.length = front'.length := by
    simp only at hsame
    omega
  obtain ⟨-, rfl⟩ := List.append_inj (hline.symm.trans hline') hfronts
  have hform := form_eq_of_read? hread hread'
  cases hform

end TexGlyph.Alias
