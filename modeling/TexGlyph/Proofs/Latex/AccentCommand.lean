import Mathlib.Data.List.Infix
import TexGlyph.Latex.Accent
import TexGlyph.Latex.Token
import TexGlyph.Proofs.Lookup

/-!
# Accent commands in a text

The accent modes differ in what the accent commands are called.  `renameAccents` goes through a text
and gives each accent command, a backslash with a tag in front of an opening brace, the name that a
table has for the tag.  It leaves no command of such a tag behind and does not touch the commands of
other tags (`accentUses_renameAccents`).

A text can be renamed in pieces if no command is cut in two.  `Renames` says what a piece turns into
wherever it stands, so pieces that turn into others make up texts that do (`Renames.append`).  Most
pieces are inert (`isInert`): no command of a tag begins in them, whatever comes after.
-/

namespace TexGlyph

/-- A text with the names of a table for its accent commands: `\t` in front of an opening brace
becomes `\name`, for every tag `t` that has a name. -/
def renameAccents (names : List (Char × String)) : List Char → List Char
  | c :: tag :: brace :: rest =>
    match if c = '\\' ∧ brace = '\x7b' then names.lookup tag else none with
    | some name => '\\' :: name.toList ++ '\x7b' :: renameAccents names rest
    | none => c :: renameAccents names (tag :: brace :: rest)
  | cs => cs

/-- How often the accent command of a tag stands in a text. -/
def accentUses (tag : Char) : List Char → Nat
  | [] => 0
  | c :: cs => (if ['\\', tag, '\x7b'].isPrefixOf (c :: cs) then 1 else 0) + accentUses tag cs

/-- Whether all names of a table are words of two letters or more, and none of them is for a blank
or a backslash. -/
def areAccentNames (names : List (Char × String)) : Bool :=
  names.all fun (tag, name) =>
    tag != ' ' && tag != '\\' && 2 ≤ name.toList.length && name.toList.all Category.isLetter

variable {names : List (Char × String)}

/-! ### Renaming -/

/-- A character that is no backslash in front of a tag with a name stays. -/
theorem renameAccents_cons {c : Char} {cs : List Char}
    (h : c = '\\' → ∀ tag rest, cs = tag :: '\x7b' :: rest → names.lookup tag = none) :
    renameAccents names (c :: cs) = c :: renameAccents names cs := by
  match cs with
  | [] => rfl
  | [_] => rfl
  | tag :: brace :: rest =>
    have hnone : (if c = '\\' ∧ brace = '\x7b' then names.lookup tag else none) = none := by
      split
      · rename_i hboth
        exact h hboth.1 tag rest (by rw [hboth.2])
      · rfl
    rw [renameAccents, hnone]

theorem renameAccents_cons_of_ne {c : Char} (h : c ≠ '\\') (cs : List Char) :
    renameAccents names (c :: cs) = c :: renameAccents names cs :=
  renameAccents_cons fun hc => absurd hc h

/-- An accent command gets its name, if it has one. -/
theorem renameAccents_accent {tag : Char} (htag : tag ≠ '\\') (rest : List Char) :
    renameAccents names ('\\' :: tag :: '\x7b' :: rest) =
      '\\' :: ((names.lookup tag).getD (String.ofList [tag])).toList ++
        '\x7b' :: renameAccents names rest := by
  cases hname : names.lookup tag with
  | some name =>
    rw [renameAccents, if_pos ⟨rfl, rfl⟩, hname]
    rfl
  | none =>
    have hnone : '\\' = '\\' → ∀ tag' rest', tag :: '\x7b' :: rest = tag' :: '\x7b' :: rest' →
        names.lookup tag' = none := by
      rintro - tag' rest' ⟨⟩
      exact hname
    rw [renameAccents_cons hnone, renameAccents_cons_of_ne htag,
      renameAccents_cons_of_ne (by decide), Option.getD_none, String.toList_ofList]
    rfl

/-- **Induction along the accent commands of a text**: a text is empty, or starts with the command
of a tag that has a name, or with a character that stays. -/
theorem renameInduction (names : List (Char × String)) {P : List Char → Prop} (nil : P [])
    (named : ∀ tag name rest, names.lookup tag = some name → P rest →
      P ('\\' :: tag :: '\x7b' :: rest))
    (other : ∀ c cs, (c = '\\' → ∀ tag rest, cs = tag :: '\x7b' :: rest →
      names.lookup tag = none) → P cs → P (c :: cs))
    (cs : List Char) : P cs := by
  -- A text of one or two characters has no room for a command.
  have hshort : ∀ c, P [c] := fun c => other c [] (fun _ _ _ h => nomatch h) nil
  induction cs using renameAccents.induct names with
  | case1 c tag brace rest name h ih =>
    split at h
    · rename_i hboth
      rw [hboth.1, hboth.2]
      exact named tag name rest h ih
    · cases h
  | case2 c tag brace rest h ih =>
    refine other c _ ?_ ih
    rintro hc tag' rest' ⟨⟩
    rwa [if_pos ⟨hc, rfl⟩] at h
  | case3 cs h =>
    match cs with
    | [] => exact nil
    | [c] => exact hshort c
    | [c, d] => exact other c [d] (fun _ _ _ h => nomatch h) (hshort d)
    | c :: d :: e :: rest => exact absurd rfl (h c d e rest)

/-- With no names, nothing is renamed. -/
theorem renameAccents_nil (cs : List Char) : renameAccents [] cs = cs := by
  induction cs using renameInduction [] with
  | nil => rfl
  | named tag name rest h _ => cases h
  | other c cs h ih => rw [renameAccents_cons h, ih]

/-- Renaming keeps the first character. -/
theorem head?_renameAccents (names : List (Char × String)) (cs : List Char) :
    (renameAccents names cs).head? = cs.head? := by
  fun_cases renameAccents names cs with
  | case1 c tag brace rest name h =>
    split at h
    · rename_i hboth
      rw [hboth.1]
      rfl
    · cases h
  | case2 => rfl
  | case3 => rfl

/-! ### The commands that are left -/

theorem isPrefixOf_accent_iff {tag : Char} {cs : List Char} :
    ['\\', tag, '\x7b'].isPrefixOf cs = true ↔ ∃ rest, cs = '\\' :: tag :: '\x7b' :: rest := by
  rw [List.isPrefixOf_iff_prefix]
  exact exists_congr fun rest => eq_comm

/-- Where a backslash does not stand, no accent command begins. -/
theorem accentUses_append_of_not_mem {front : List Char} (h : '\\' ∉ front) (tag : Char)
    (rest : List Char) : accentUses tag (front ++ rest) = accentUses tag rest := by
  induction front with
  | nil => rfl
  | cons c front ih =>
    rw [List.mem_cons, not_or] at h
    have hbegins : ¬ ['\\', tag, '\x7b'].isPrefixOf (c :: (front ++ rest)) = true := by
      rw [isPrefixOf_accent_iff]
      rintro ⟨_, heq⟩
      exact h.1 (List.cons.inj heq).1.symm
    rw [List.cons_append, accentUses, if_neg hbegins, ih h.2, Nat.zero_add]

/-- A text in which the accent command of a tag is counted nowhere does not contain it. -/
theorem not_infix_of_accentUses {tag : Char} {cs : List Char} (h : accentUses tag cs = 0) :
    ¬ ['\\', tag, '\x7b'] <:+: cs := by
  induction cs with
  | nil => simp
  | cons c cs ih =>
    rw [accentUses, Nat.add_eq_zero_iff] at h
    rw [List.infix_cons_iff, ← List.isPrefixOf_iff_prefix]
    rintro (hbegins | hinfix)
    · rw [if_pos hbegins] at h
      cases h.1
    · exact ih h.2 hinfix

theorem isPrefixOf_accent_renameAccents {c tag : Char} {cs : List Char} (htag : tag ≠ '\\') :
    ['\\', tag, '\x7b'].isPrefixOf (c :: renameAccents names cs) =
      ['\\', tag, '\x7b'].isPrefixOf (c :: cs) := by
  rw [Bool.eq_iff_iff, isPrefixOf_accent_iff, isPrefixOf_accent_iff]
  constructor
  · rintro ⟨rest, h⟩
    obtain ⟨rfl, htail⟩ := List.cons.inj h
    -- The tag and the brace are first characters, which renaming keeps.
    have hfirst := head?_renameAccents names cs
    rw [htail] at hfirst
    obtain ⟨cs, rfl⟩ := List.head?_eq_some_iff.1 hfirst.symm
    rw [renameAccents_cons_of_ne htag] at htail
    have hsecond := head?_renameAccents names cs
    rw [(List.cons.inj htail).2] at hsecond
    obtain ⟨cs, rfl⟩ := List.head?_eq_some_iff.1 hsecond.symm
    exact ⟨cs, rfl⟩
  · rintro ⟨rest, h⟩
    obtain ⟨rfl, rfl⟩ := List.cons.inj h
    exact ⟨_, by rw [renameAccents_cons_of_ne htag, renameAccents_cons_of_ne (by decide)]⟩

/-- A name is for a character that is no blank and no backslash, and goes on after its first two
letters. -/
theorem exists_of_lookup (hnames : areAccentNames names = true) {tag : Char} {name : String}
    (h : names.lookup tag = some name) :
    tag ≠ ' ' ∧ tag ≠ '\\' ∧ (∀ c ∈ name.toList, Category.isLetter c = true) ∧
      ∃ first second more, name.toList = first :: second :: more := by
  have hentry := List.all_eq_true.1 hnames (tag, name) (mem_of_lookup h)
  simp only [Bool.and_eq_true, bne_iff_ne, decide_eq_true_eq, List.all_eq_true] at hentry
  obtain ⟨⟨⟨hblank, hescape⟩, hlength⟩, hletters⟩ := hentry
  refine ⟨hblank, hescape, hletters, ?_⟩
  match name.toList, hlength with
  | first :: second :: more, _ => exact ⟨first, second, more, rfl⟩

/-- A name is the name of no tag. -/
theorem accentUses_name (hnames : areAccentNames names = true) {tag : Char} {name : String}
    (h : names.lookup tag = some name) (tag' : Char) (rest : List Char) :
    accentUses tag' ('\\' :: name.toList ++ '\x7b' :: rest) = accentUses tag' rest := by
  obtain ⟨_, _, hletters, first, second, more, hname⟩ := exists_of_lookup hnames h
  -- No backslash stands inside the name or before the brace, so nothing is counted there.
  have hescape : '\\' ∉ name.toList ++ ['\x7b'] := by
    intro hmem
    rcases List.mem_append.1 hmem with hmem | hmem
    · exact absurd (hletters _ hmem) (by decide)
    · exact absurd hmem (by decide)
  have hbegins : ¬ ['\\', tag', '\x7b'].isPrefixOf ('\\' :: (name.toList ++ '\x7b' :: rest)) =
      true := by
    rw [isPrefixOf_accent_iff, hname]
    rintro ⟨_, ⟨⟩⟩
    exact absurd (hletters '\x7b' (by rw [hname]; simp)) (by decide)
  have htail := accentUses_append_of_not_mem hescape tag' rest
  rw [List.append_assoc, List.singleton_append] at htail
  rw [List.cons_append, accentUses, if_neg hbegins, htail, Nat.zero_add]

/-- **Renaming leaves no command of a tag with a name, and keeps all the others.** -/
theorem accentUses_renameAccents (hnames : areAccentNames names = true) {tag : Char}
    (htag : tag ≠ '\\') (cs : List Char) :
    accentUses tag (renameAccents names cs) =
      if (names.lookup tag).isSome then 0 else accentUses tag cs := by
  induction cs using renameInduction names with
  | nil => exact (ite_self 0).symm
  | named tag' name rest h ih =>
    obtain ⟨_, htag', _⟩ := exists_of_lookup hnames h
    rw [renameAccents_accent htag', h, Option.getD_some, accentUses_name hnames h, ih]
    by_cases hsame : tag' = tag
    · rw [← hsame, h, Option.isSome_some, if_pos rfl, if_pos rfl]
    · -- The command of another tag is no command of this one.
      have hbegins : ¬ ['\\', tag, '\x7b'].isPrefixOf ('\\' :: tag' :: '\x7b' :: rest) = true := by
        rw [isPrefixOf_accent_iff]
        rintro ⟨_, heq⟩
        exact hsame (List.cons.inj (List.cons.inj heq).2).1
      have hescape : '\\' ∉ [tag', '\x7b'] := by simp [Ne.symm htag']
      have htail := accentUses_append_of_not_mem hescape tag rest
      rw [accentUses, if_neg hbegins, Nat.zero_add]
      exact congrArg _ htail.symm
  | other c cs h ih =>
    rw [renameAccents_cons h, accentUses, isPrefixOf_accent_renameAccents htag, ih, accentUses]
    cases hname : names.lookup tag with
    | none => rfl
    | some name =>
      -- Had the command begun here, its tag would have been renamed.
      have hbegins : ¬ ['\\', tag, '\x7b'].isPrefixOf (c :: cs) = true := by
        rw [isPrefixOf_accent_iff]
        rintro ⟨rest, heq⟩
        obtain ⟨hc, hcs⟩ := List.cons.inj heq
        rw [h hc tag rest hcs] at hname
        cases hname
      rw [if_neg hbegins]
      rfl

/-! ### Pieces of a text -/

/-- Whether a piece of a text turns into another one when accent commands are renamed, whatever
comes after it. -/
def Renames (names : List (Char × String)) (piece renamed : String) : Prop :=
  ∀ rest, renameAccents names (piece.toList ++ rest) =
    renamed.toList ++ renameAccents names rest

/-- Whether a backslash before a text makes no accent command, whatever comes after the text: the
text starts with a blank, or its second character is no brace. -/
def isInertArgument : List Char → Bool
  | [] => false
  | [tag] => tag == ' '
  | tag :: next :: _ => tag == ' ' || next != '\x7b'

/-- Whether no accent command begins in a text, whatever comes after it. -/
def isInert : List Char → Bool
  | [] => true
  | c :: cs => (c != '\\' || isInertArgument cs) && isInert cs

/-- A blank at the end keeps a text without braces from making a command with what comes after. -/
theorem isInert_append_blank {cs : List Char} (h : '\x7b' ∉ cs) :
    isInert (cs ++ [' ']) = true := by
  induction cs with
  | nil => decide
  | cons c cs ih =>
    have hargument : isInertArgument (cs ++ [' ']) = true := by
      match cs, h with
      | [], _ => decide
      | [tag], _ => simp [isInertArgument]
      | tag :: next :: more, h =>
        have hnext : next ≠ '\x7b' := by
          rintro rfl
          exact h (by simp)
        simp [isInertArgument, hnext]
    rw [List.cons_append, isInert, hargument, ih fun hmem => h (List.mem_cons_of_mem c hmem),
      Bool.or_true, Bool.and_true]

theorem isInert_of_not_mem {cs : List Char} (h : '\\' ∉ cs) : isInert cs = true := by
  induction cs with
  | nil => rfl
  | cons c cs ih =>
    have hc : c ≠ '\\' := fun heq => h (heq ▸ List.mem_cons_self)
    rw [isInert, bne_iff_ne.2 hc, ih fun hmem => h (List.mem_cons_of_mem c hmem), Bool.true_or,
      Bool.and_true]

namespace Renames

variable {piece renamed piece' renamed' : String}

theorem eq (h : Renames names piece renamed) :
    renameAccents names piece.toList = renamed.toList := by
  have hend := h []
  rwa [List.append_nil, show renameAccents names [] = [] from rfl, List.append_nil] at hend

theorem append (h : Renames names piece renamed) (h' : Renames names piece' renamed') :
    Renames names (piece ++ piece') (renamed ++ renamed') := by
  intro rest
  rw [String.toList_append, String.toList_append, List.append_assoc, h, h', List.append_assoc]

/-- An inert text stays. -/
theorem of_isInert (hblank : names.lookup ' ' = none) (text : String)
    (h : isInert text.toList = true) : Renames names text text := by
  intro rest
  generalize text.toList = cs at h
  induction cs with
  | nil => rfl
  | cons c cs ih =>
    rw [isInert, Bool.and_eq_true] at h
    -- A command that begins at `c` would have its tag in the text, and a blank is no tag.
    have hcons : c = '\\' → ∀ tag rest', cs ++ rest = tag :: '\x7b' :: rest' →
        names.lookup tag = none := by
      rintro rfl tag rest' heq
      have hargument : isInertArgument cs = true := h.1
      match cs, hargument with
      | [_], hargument =>
        obtain ⟨rfl, _⟩ := List.cons.inj heq
        rw [isInertArgument, beq_iff_eq] at hargument
        rw [hargument, hblank]
      | _ :: _ :: _, hargument =>
        obtain ⟨rfl, hnext⟩ := List.cons.inj heq
        obtain ⟨rfl, _⟩ := List.cons.inj hnext
        rw [isInertArgument, bne_self_eq_false, Bool.or_false, beq_iff_eq] at hargument
        rw [hargument, hblank]
    rw [List.cons_append, renameAccents_cons hcons, ih h.2, List.cons_append]

/-- A command whose own text is inert goes on its argument. -/
theorem applied (hblank : names.lookup ' ' = none) (h : Renames names piece renamed)
    {command : String} (hcommand : isInert (command ++ "\x7b").toList = true) :
    Renames names (applied command piece) (applied command renamed) :=
  ((of_isInert hblank _ hcommand).append h).append (of_isInert hblank _ (by decide))

/-- An accent command on a piece gets its name. -/
theorem accent (hblank : names.lookup ' ' = none) {tag : Char} (htag : tag ≠ '\\')
    (h : Renames names piece renamed) :
    Renames names (TexGlyph.applied ("\\" ++ String.ofList [tag]) piece)
      (TexGlyph.applied ("\\" ++ (names.lookup tag).getD (String.ofList [tag])) renamed) := by
  intro rest
  -- The closing brace goes with the argument, so what follows the opening one is a single piece.
  have hclosed := (h.append (of_isInert hblank "\x7d" (by decide))) rest
  have hcommand : ∀ name : String, (TexGlyph.applied ("\\" ++ name) renamed).toList =
      '\\' :: name.toList ++ '\x7b' :: (renamed ++ "\x7d").toList := by
    intro name
    simp [TexGlyph.applied]
  have hopen : (TexGlyph.applied ("\\" ++ String.ofList [tag]) piece).toList ++ rest =
      '\\' :: tag :: '\x7b' :: ((piece ++ "\x7d").toList ++ rest) := by
    simp [TexGlyph.applied]
  rw [hopen, renameAccents_accent htag, hclosed, hcommand, List.append_assoc]
  rfl

end Renames

end TexGlyph
