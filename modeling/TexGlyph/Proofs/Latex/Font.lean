import TexGlyph.Latex.Font
import TexGlyph.Proofs.Text.Pieces

/-!
# Every style of a name is written once

`wrapFont` looks for styles as parts of a name, not as words of it, and cuts out what it finds, so
letters that stood apart might come together and read as another style.  They do not in a name that
has the style words as words of their own, each at most once (`NamesStylesOnce`): a style that is
found stands between two blanks, and when it is cut out, an empty word stays in its place
(`exists_nameWords_eq`).  So a style that shares no word with it is there as before
(`NamesStylesOnce.infix_cut_iff`), and its own words are gone.

That is one step.  Over a list of styles it says which of them are used (`mem_stylesIn_iff`): those
that the name has and that none before them took a word from.  Every style word is a style of its
own in `fontStyles`, so all of them are used up in the end.
-/

namespace TexGlyph

/-! ### The words of names and of styles -/

/-- The words that styles are made of. -/
def styleWords : List String :=
  ["SANS-SERIF", "BOLD", "ITALIC", "SCRIPT", "DOUBLE-STRUCK", "BLACK-LETTER", "FRAKTUR",
    "MONOSPACE"]

/-- The words of a name, with a blank between two of them. -/
def nameWords (name : List Char) : List String := (cutAt ' ' name).map String.ofList

/-- The style words among the words of a name. -/
def styleWordsIn (name : List Char) : List String := (nameWords name).filter (· ∈ styleWords)

/-- Whether a text has no words but style words. -/
def IsStyle (style : List Char) : Prop := ∀ word ∈ nameWords style, word ∈ styleWords

/-- The words of a style of a table. -/
def wordsOf (style : String × String) : List String := nameWords style.1.toList

/-- Whether style words stand in a name only as words of their own, and each at most once. -/
structure NamesStylesOnce (name : List Char) : Prop where
  /-- No style word is a part of a longer word. -/
  whole : ∀ word ∈ nameWords name, ∀ style ∈ styleWords, occursIn style word = true → word = style
  /-- No style word is there twice. -/
  once : ∀ style ∈ styleWords, (nameWords name).count style ≤ 1

instance (name : List Char) : Decidable (NamesStylesOnce name) :=
  decidable_of_iff
    ((∀ word ∈ nameWords name, ∀ style ∈ styleWords, occursIn style word = true → word = style) ∧
      ∀ style ∈ styleWords, (nameWords name).count style ≤ 1)
    ⟨fun h => ⟨h.1, h.2⟩, fun h => ⟨h.whole, h.once⟩⟩

/-- All words of the styles are style words. -/
theorem all_wordsOf_fontStyles :
    fontStyles.all (fun style => (wordsOf style).all (· ∈ styleWords)) = true := by
  decide

theorem isStyle_of_mem_fontStyles : ∀ style ∈ fontStyles, IsStyle style.1.toList := by
  intro style hstyle word hword
  have hall := List.all_eq_true.1 all_wordsOf_fontStyles style hstyle
  exact of_decide_eq_true (List.all_eq_true.1 hall word hword)

/-- No style is there twice. -/
theorem nodup_fontStyles : fontStyles.Nodup := by decide

/-- Every style word is a style of its own. -/
theorem all_styleWords_styles :
    styleWords.all (fun word => fontStyles.any fun style => style.1 = word) = true := by
  decide

theorem all_styleWords_unspaced :
    styleWords.all (fun word => !word.toList.contains ' ') = true := by
  decide

theorem empty_not_mem_styleWords : "" ∉ styleWords := by decide

theorem blank_not_mem_of_mem_styleWords {word : String} (h : word ∈ styleWords) :
    ' ' ∉ word.toList := by
  have hword := List.all_eq_true.1 all_styleWords_unspaced word h
  rwa [Bool.not_eq_true', List.contains_eq_mem, decide_eq_false_iff_not] at hword

theorem nameWords_of_mem {word : String} (h : word ∈ styleWords) :
    nameWords word.toList = [word] := by
  rw [nameWords, cutAt_eq_splitOn, List.splitOn_eq_singleton (blank_not_mem_of_mem_styleWords h),
    List.map_singleton, String.ofList_toList]

theorem isStyle_of_mem {word : String} (h : word ∈ styleWords) : IsStyle word.toList := by
  rw [IsStyle, nameWords_of_mem h]
  exact fun other hother => List.mem_singleton.1 hother ▸ h

theorem nameWords_ne_nil (name : List Char) : nameWords name ≠ [] := by
  rw [nameWords, cutAt_eq_splitOn, Ne, List.map_eq_nil_iff]
  exact List.splitOn_ne_nil ' ' name

/-- What is made of neighbouring words of a name is a part of the name. -/
theorem infix_of_infix_nameWords {part name : List Char} (h : nameWords part <:+: nameWords name) :
    part <:+: name := by
  have hpieces : ∀ text : List Char, (nameWords text).map String.toList = cutAt ' ' text := by
    intro text
    rw [nameWords, List.map_map]
    exact List.map_id'' (fun _ => String.toList_ofList) _
  have hcut := h.map String.toList
  rw [hpieces, hpieces] at hcut
  exact infix_of_infix_cutAt hcut

/-! ### Cutting out one style -/

section Cut

variable {name style part front back : List Char}

/-- A style word stands between blanks. -/
theorem NamesStylesOnce.stands_apart {word : String}
    (h : NamesStylesOnce (front ++ word.toList ++ back)) (hword : word ∈ styleWords) :
    Closes ' ' [] front ∧ Opens ' ' [] back := by
  obtain ⟨left, hleft, hfront⟩ := exists_closes ' ' front
  obtain ⟨right, hright, hback⟩ := exists_opens ' ' back
  obtain ⟨before, after, hcut⟩ := exists_cutAt_eq hfront hback
  have hunspaced : ' ' ∉ left ++ word.toList ++ right := by
    simp only [List.mem_append, not_or]
    exact ⟨⟨hleft, blank_not_mem_of_mem_styleWords hword⟩, hright⟩
  have hmem : String.ofList (left ++ word.toList ++ right) ∈
      nameWords (front ++ word.toList ++ back) := by
    refine List.mem_map_of_mem ?_
    rw [hcut, cutAt_eq_splitOn, List.splitOn_eq_singleton hunspaced]
    exact List.mem_append_left _ (List.mem_append_right _ (List.mem_singleton_self _))
  have hoccurs : occursIn word (String.ofList (left ++ word.toList ++ right)) = true := by
    rw [occursIn_iff, String.toList_ofList]
    exact List.infix_append left word.toList right
  -- The word of the name that it stands in is the style word itself, with nothing around it.
  have hwhole := congrArg String.toList (h.whole _ hmem word hword hoccurs)
  rw [String.toList_ofList] at hwhole
  have hlength := congrArg List.length hwhole
  simp only [List.length_append] at hlength
  obtain rfl : left = [] := List.length_eq_zero_iff.1 (by omega)
  obtain rfl : right = [] := List.length_eq_zero_iff.1 (by omega)
  exact ⟨hfront, hback⟩

/-- The first word of a style says what is in front of it. -/
theorem NamesStylesOnce.closes_front (h : NamesStylesOnce (front ++ style ++ back))
    (hstyle : IsStyle style) : Closes ' ' [] front := by
  obtain ⟨first, hfirst, hopens⟩ := exists_opens ' ' style
  have hword := hstyle _ (List.mem_map_of_mem (hopens.mem_cutAt hfirst))
  obtain ⟨tail, rfl⟩ := hopens.exists_append
  have hshape : front ++ (first ++ tail) ++ back =
      front ++ (String.ofList first).toList ++ (tail ++ back) := by
    simp only [String.toList_ofList, List.append_assoc]
  rw [hshape] at h
  exact (h.stands_apart hword).1

/-- The last word of a style says what is behind it. -/
theorem NamesStylesOnce.opens_back (h : NamesStylesOnce (front ++ style ++ back))
    (hstyle : IsStyle style) : Opens ' ' [] back := by
  obtain ⟨last, hlast, hcloses⟩ := exists_closes ' ' style
  have hword := hstyle _ (List.mem_map_of_mem (hcloses.mem_cutAt hlast))
  obtain ⟨head, rfl⟩ := hcloses.exists_append
  have hshape : front ++ (head ++ last) ++ back =
      front ++ head ++ (String.ofList last).toList ++ back := by
    simp only [String.toList_ofList, List.append_assoc]
  rw [hshape] at h
  exact (h.stands_apart hword).2

/-- **The words of a style are cut out together**, and an empty word takes their place. -/
theorem NamesStylesOnce.exists_nameWords_eq (h : NamesStylesOnce (front ++ style ++ back))
    (hstyle : IsStyle style) :
    ∃ before after, nameWords (front ++ style ++ back) = before ++ nameWords style ++ after ∧
      nameWords (front ++ back) = before ++ "" :: after := by
  -- The style and nothing in its place are cut in the same surroundings.
  obtain ⟨before, after, hcut⟩ := exists_cutAt_eq (h.closes_front hstyle) (h.opens_back hstyle)
  refine ⟨before.map String.ofList, after.map String.ofList, ?_, ?_⟩
  · rw [nameWords, hcut, List.nil_append, List.append_nil, List.map_append, List.map_append]
    rfl
  · have hrest := hcut []
    rw [List.append_nil] at hrest
    rw [nameWords, hrest, List.map_append, List.map_append, List.append_assoc]
    rfl

/-- What is left names styles once. -/
theorem NamesStylesOnce.cut (h : NamesStylesOnce (front ++ style ++ back))
    (hstyle : IsStyle style) : NamesStylesOnce (front ++ back) := by
  obtain ⟨before, after, hname, hrest⟩ := h.exists_nameWords_eq hstyle
  constructor
  · intro word hword other hother hoccurs
    rw [hrest, List.mem_append, List.mem_cons] at hword
    have hkept := h.whole word
    rw [hname, List.mem_append, List.mem_append] at hkept
    rcases hword with hbefore | rfl | hafter
    · exact hkept (.inl (.inl hbefore)) other hother hoccurs
    · -- Nothing but the empty text occurs in the empty word.
      rw [occursIn_iff, String.toList_empty, List.infix_nil, String.toList_eq_nil_iff] at hoccurs
      exact hoccurs.symm
    · exact hkept (.inr hafter) other hother hoccurs
  · intro word hword
    have hne : "" ≠ word := fun heq => empty_not_mem_styleWords (heq ▸ hword)
    have honce := h.once word hword
    rw [hname, List.count_append, List.count_append] at honce
    rw [hrest, List.count_append, List.count_cons_of_ne hne]
    omega

/-- **The style words of a name are those of the style that is cut out and those that are left.** -/
theorem NamesStylesOnce.perm_cut (h : NamesStylesOnce (front ++ style ++ back))
    (hstyle : IsStyle style) :
    (styleWordsIn (front ++ style ++ back)).Perm
      (nameWords style ++ styleWordsIn (front ++ back)) := by
  obtain ⟨before, after, hname, hrest⟩ := h.exists_nameWords_eq hstyle
  have hall : (nameWords style).filter (· ∈ styleWords) = nameWords style :=
    List.filter_eq_self.2 fun word hword => decide_eq_true (hstyle word hword)
  have hempty : ("" :: after).filter (· ∈ styleWords) = after.filter (· ∈ styleWords) :=
    List.filter_cons_of_neg (by decide)
  rw [styleWordsIn, styleWordsIn, hname, hrest, List.filter_append, List.filter_append,
    List.filter_append, hempty, hall, ← List.append_assoc]
  exact List.perm_append_comm.append_right _

theorem NamesStylesOnce.nodup_styleWordsIn (h : NamesStylesOnce name) :
    (styleWordsIn name).Nodup := by
  refine List.nodup_iff_count.2 fun word => ?_
  by_cases hword : word ∈ styleWords
  · have hcount : (styleWordsIn name).count word = (nameWords name).count word :=
      List.count_filter (decide_eq_true hword)
    rw [hcount]
    exact h.once word hword
  · have hnone : word ∉ styleWordsIn name := fun hmem =>
      hword (of_decide_eq_true (List.mem_filter.1 hmem).2)
    rw [List.count_eq_zero.2 hnone]
    exact Nat.zero_le 1

/-- The words of a style are gone when it is cut out. -/
theorem NamesStylesOnce.not_mem_cut (h : NamesStylesOnce (front ++ style ++ back))
    (hstyle : IsStyle style) {word : String}
    (hword : word ∈ nameWords style) : word ∉ nameWords (front ++ back) := by
  intro hleft
  have hnodup := (h.perm_cut hstyle).nodup_iff.1 h.nodup_styleWordsIn
  obtain ⟨-, -, hapart⟩ := List.nodup_append.1 hnodup
  have hmem : word ∈ styleWordsIn (front ++ back) :=
    List.mem_filter.2 ⟨hleft, decide_eq_true (hstyle word hword)⟩
  exact hapart word hword word hmem rfl

theorem NamesStylesOnce.infix_nameWords (h : NamesStylesOnce name)
    (hpart : IsStyle part) (hin : part <:+: name) :
    nameWords part <:+: nameWords name := by
  obtain ⟨front, back, rfl⟩ := hin
  obtain ⟨before, after, hname, -⟩ := h.exists_nameWords_eq hpart
  rw [hname]
  exact List.infix_append before (nameWords part) after

/-- **What is left has the styles that share no word with the one that was cut out.** -/
theorem NamesStylesOnce.infix_cut_iff (h : NamesStylesOnce (front ++ style ++ back))
    (hstyle : IsStyle style)
    (hpart : IsStyle part) :
    part <:+: front ++ back ↔
      part <:+: front ++ style ++ back ∧ (nameWords style).Disjoint (nameWords part) := by
  obtain ⟨before, after, hname, hrest⟩ := h.exists_nameWords_eq hstyle
  -- The empty word belongs to no style, so the words of one are all on the same side of it.
  have hsides : nameWords part <:+: nameWords (front ++ back) ↔
      nameWords part <:+: before ∨ nameWords part <:+: after := by
    rw [hrest]
    exact infix_append_cons_iff fun hempty => empty_not_mem_styleWords (hpart "" hempty)
  constructor
  · intro hin
    have hwords := (h.cut hstyle).infix_nameWords hpart hin
    constructor
    · refine infix_of_infix_nameWords ?_
      rw [hname]
      rcases hsides.1 hwords with hbefore | hafter
      · exact List.infix_append_of_infix_left (List.infix_append_of_infix_left hbefore)
      · exact List.infix_append_of_infix_right hafter
    · exact fun word hword hother => h.not_mem_cut hstyle hword (hwords.subset hother)
  · rintro ⟨hin, hdisjoint⟩
    have hwords := h.infix_nameWords hpart hin
    rw [hname] at hwords
    have hapart := infix_or_infix_of_disjoint (nameWords_ne_nil style) hdisjoint hwords
    exact infix_of_infix_nameWords (hsides.2 hapart)

end Cut

/-! ### Cutting out the styles of a list -/

/-- The styles of a list that are found in a name, one after the other. -/
def stylesIn : List (String × String) → List Char → List (String × String)
  | [], _ => []
  | style :: styles, name =>
    match cutFirst? style.1.toList name with
    | some rest => style :: stylesIn styles rest
    | none => stylesIn styles name

/-- What is left of a name when the styles of a list are cut out. -/
def withoutStyles : List (String × String) → List Char → List Char
  | [], name => name
  | style :: styles, name =>
    match cutFirst? style.1.toList name with
    | some rest => withoutStyles styles rest
    | none => withoutStyles styles name

/-- The styles that are found are those whose commands are written, the first one innermost. -/
theorem wrapStyles_eq_foldl (styles : List (String × String)) (name : List Char) (body : String) :
    wrapStyles styles name body =
      (stylesIn styles name).foldl (fun text style => applied style.2 text) body := by
  induction styles generalizing name body with
  | nil => rfl
  | cons style styles ih =>
    rw [wrapStyles, stylesIn]
    cases cutFirst? style.1.toList name with
    | none => exact ih name body
    | some rest => exact ih rest (applied style.2 body)

theorem sublist_stylesIn (styles : List (String × String)) (name : List Char) :
    (stylesIn styles name).Sublist styles := by
  induction styles generalizing name with
  | nil => exact List.Sublist.refl []
  | cons style styles ih =>
    rw [stylesIn]
    cases cutFirst? style.1.toList name with
    | none => exact (ih name).cons style
    | some rest => exact (ih rest).cons_cons style

theorem stylesIn_append (before after : List (String × String)) (name : List Char) :
    stylesIn (before ++ after) name =
      stylesIn before name ++ stylesIn after (withoutStyles before name) := by
  induction before generalizing name with
  | nil => rfl
  | cons style before ih =>
    rw [List.cons_append, stylesIn, stylesIn, withoutStyles]
    cases cutFirst? style.1.toList name with
    | none => exact ih name
    | some rest => exact congrArg (style :: ·) (ih rest)

section Run

variable {styles : List (String × String)} {name : List Char}

/-- **The style words of a name are those of the styles that are found and those that are left.** -/
theorem NamesStylesOnce.perm_stylesIn (h : NamesStylesOnce name)
    (hstyles : ∀ style ∈ styles, IsStyle style.1.toList) :
    (styleWordsIn name).Perm
      ((stylesIn styles name).flatMap wordsOf ++ styleWordsIn (withoutStyles styles name)) := by
  induction styles generalizing name with
  | nil => exact List.Perm.refl _
  | cons style styles ih =>
    obtain ⟨hstyle, htail⟩ := List.forall_mem_cons.1 hstyles
    rw [stylesIn, withoutStyles]
    cases hcut : cutFirst? style.1.toList name with
    | none => exact ih h htail
    | some rest =>
      obtain ⟨front, back, rfl, rfl⟩ := exists_of_cutFirst? hcut
      have hrest := (ih (h.cut hstyle) htail).append_left (wordsOf style)
      rw [← List.append_assoc] at hrest
      exact (h.perm_cut hstyle).trans hrest

/-- **What is left has the styles that share no word with those that were found.** -/
theorem NamesStylesOnce.infix_withoutStyles_iff (h : NamesStylesOnce name)
    (hstyles : ∀ style ∈ styles, IsStyle style.1.toList) {part : List Char}
    (hpart : IsStyle part) :
    part <:+: withoutStyles styles name ↔ part <:+: name ∧
      ∀ style ∈ stylesIn styles name, (wordsOf style).Disjoint (nameWords part) := by
  induction styles generalizing name with
  | nil => simp [withoutStyles, stylesIn]
  | cons style styles ih =>
    obtain ⟨hstyle, htail⟩ := List.forall_mem_cons.1 hstyles
    rw [stylesIn, withoutStyles]
    cases hcut : cutFirst? style.1.toList name with
    | none => exact ih h htail
    | some rest =>
      obtain ⟨front, back, rfl, rfl⟩ := exists_of_cutFirst? hcut
      rw [ih (h.cut hstyle) htail, h.infix_cut_iff hstyle hpart, List.forall_mem_cons, and_assoc]
      rfl

/-- **A style is used if the name has it and no style before it took one of its words.** -/
theorem NamesStylesOnce.mem_stylesIn_iff (h : NamesStylesOnce name)
    (hstyles : ∀ style ∈ styles, IsStyle style.1.toList)
    (hnodup : styles.Nodup) {before after : List (String × String)} {style : String × String}
    (hplace : styles = before ++ style :: after) :
    style ∈ stylesIn styles name ↔ style.1.toList <:+: name ∧
      ∀ earlier ∈ stylesIn styles name, earlier ∈ before →
        (wordsOf earlier).Disjoint (wordsOf style) := by
  subst hplace
  obtain ⟨-, hlater, hapart⟩ := List.nodup_append.1 hnodup
  have hstylesBefore := fun other hother => hstyles other (List.mem_append_left _ hother)
  have hstyle := hstyles style (List.mem_append_right _ List.mem_cons_self)
  have hsplit := stylesIn_append before (style :: after) name
  -- The styles of a table are different, so this one is used if it is found in its turn.
  have hturn : style ∈ stylesIn (before ++ style :: after) name ↔
      style.1.toList <:+: withoutStyles before name := by
    have hbefore : style ∉ stylesIn before name := fun hmem =>
      hapart style ((sublist_stylesIn before name).mem hmem) style List.mem_cons_self rfl
    rw [hsplit, List.mem_append, or_iff_right hbefore, stylesIn, ← isSome_cutFirst?_iff]
    cases cutFirst? style.1.toList (withoutStyles before name) with
    | none =>
      have hafter : style ∉ stylesIn after (withoutStyles before name) := fun hmem =>
        (List.nodup_cons.1 hlater).1 ((sublist_stylesIn after _).mem hmem)
      simp [hafter]
    | some rest => simp
  rw [hturn, h.infix_withoutStyles_iff hstylesBefore hstyle]
  refine and_congr_right fun _ => ?_
  constructor
  · intro hall earlier hused hplace
    rw [hsplit, List.mem_append] at hused
    rcases hused with hused | hused
    · exact hall earlier hused
    · exact absurd rfl (hapart earlier hplace earlier ((sublist_stylesIn _ _).mem hused))
  · intro hall earlier hused
    refine hall earlier ?_ ((sublist_stylesIn before name).mem hused)
    rw [hsplit]
    exact List.mem_append_left _ hused

end Run

/-! ### The styles of names -/

/-- **No style word is left**: when the style of that word alone is looked for, it is found, if none
before it took the word. -/
theorem NamesStylesOnce.styleWordsIn_withoutStyles {name : List Char} (h : NamesStylesOnce name) :
    styleWordsIn (withoutStyles fontStyles name) = [] := by
  refine List.eq_nil_iff_forall_not_mem.2 fun word hword => ?_
  obtain ⟨hmem, hword⟩ := List.mem_filter.1 hword
  rw [decide_eq_true_eq] at hword
  have hown := nameWords_of_mem hword
  have hleft : word.toList <:+: withoutStyles fontStyles name := by
    refine infix_of_infix_nameWords ?_
    rw [hown]
    exact (List.singleton_infix_iff word _).2 hmem
  obtain ⟨hin, hdisjoint⟩ :=
    (h.infix_withoutStyles_iff isStyle_of_mem_fontStyles (isStyle_of_mem hword)).1 hleft
  -- The word is a style of its own, which is used, as no style took the word.
  obtain ⟨style, hstyle, hsame⟩ :=
    List.any_eq_true.1 (List.all_eq_true.1 all_styleWords_styles word hword)
  obtain rfl := of_decide_eq_true hsame
  obtain ⟨before, after, hplace⟩ := List.append_of_mem hstyle
  have hused : style ∈ stylesIn fontStyles name :=
    (h.mem_stylesIn_iff isStyle_of_mem_fontStyles nodup_fontStyles hplace).2
      ⟨hin, fun earlier hearlier _ => hdisjoint earlier hearlier⟩
  have hself : style.1 ∈ nameWords style.1.toList := by
    rw [hown]
    exact List.mem_singleton_self style.1
  exact hdisjoint style hused hself hself

/-- **Every style word of a name is written once**, for names with the style words as words of their
own, each at most once: what is written is the text in the commands of some styles of the table, in
its order from the inside out, and the words of these styles are the style words of the name.  A
style is among them if the name has it and none before it took one of its words. -/
theorem wrapFont_styles_once {name : String} (hname : NamesStylesOnce name.toList) (body : String) :
    ∃ used : List (String × String), used.Sublist fontStyles ∧
      wrapFont name body = used.foldl (fun text style => applied style.2 text) body ∧
      (used.flatMap wordsOf).Perm (styleWordsIn name.toList) ∧ (used.flatMap wordsOf).Nodup ∧
      ∀ before style after, fontStyles = before ++ style :: after →
        (style ∈ used ↔ occursIn style.1 name = true ∧
          ∀ earlier ∈ used, earlier ∈ before → (wordsOf earlier).Disjoint (wordsOf style)) := by
  have hwords : (styleWordsIn name.toList).Perm
      ((stylesIn fontStyles name.toList).flatMap wordsOf) := by
    have hperm := hname.perm_stylesIn isStyle_of_mem_fontStyles
    rwa [hname.styleWordsIn_withoutStyles, List.append_nil] at hperm
  refine ⟨stylesIn fontStyles name.toList, sublist_stylesIn fontStyles name.toList,
    wrapStyles_eq_foldl fontStyles name.toList body, hwords.symm,
    hwords.nodup_iff.1 hname.nodup_styleWordsIn, fun before style after hplace => ?_⟩
  rw [occursIn_iff]
  exact hname.mem_stylesIn_iff isStyle_of_mem_fontStyles nodup_fontStyles hplace

/-- When the two middle words are cut out, the two around them come together, and still are two
styles. -/
theorem wrapFont_styles_once_parted :
    NamesStylesOnce "BOLD SANS-SERIF ITALIC SCRIPT CAPITAL A".toList ∧
      wrapFont "BOLD SANS-SERIF ITALIC SCRIPT CAPITAL A" "A" =
        "\\symbf\x7b\\symscr\x7b\\symsfit\x7bA\x7d\x7d\x7d" ∧
      ∃ used : List (String × String), used.Sublist fontStyles ∧
        "\\symbf\x7b\\symscr\x7b\\symsfit\x7bA\x7d\x7d\x7d" =
          used.foldl (fun text style => applied style.2 text) "A" ∧
        (used.flatMap wordsOf).Perm ["BOLD", "SANS-SERIF", "ITALIC", "SCRIPT"] ∧
        (used.flatMap wordsOf).Nodup ∧ ("BOLD SCRIPT", "\\symbfscr") ∉ used := by
  have hname : NamesStylesOnce "BOLD SANS-SERIF ITALIC SCRIPT CAPITAL A".toList := by decide
  have hout : wrapFont "BOLD SANS-SERIF ITALIC SCRIPT CAPITAL A" "A" =
      "\\symbf\x7b\\symscr\x7b\\symsfit\x7bA\x7d\x7d\x7d" := by
    decide
  have hwords : styleWordsIn "BOLD SANS-SERIF ITALIC SCRIPT CAPITAL A".toList =
      ["BOLD", "SANS-SERIF", "ITALIC", "SCRIPT"] := by
    decide
  obtain ⟨used, hsublist, htext, hperm, hnodup, hused⟩ := wrapFont_styles_once hname "A"
  rw [hout] at htext
  rw [hwords] at hperm
  refine ⟨hname, hout, used, hsublist, htext, hperm, hnodup, fun hmem => ?_⟩
  have hplace : fontStyles = fontStyles.take 4 ++ ("BOLD SCRIPT", "\\symbfscr") ::
      fontStyles.drop 5 := rfl
  obtain ⟨hoccurs, -⟩ := (hused _ _ _ hplace).1 hmem
  revert hoccurs
  decide

-- A style word that comes again is passed over, and one inside a longer word counts.
example : wrapFont "BOLD CAPITAL BOLD" "A" = "\\symbf\x7bA\x7d" ∧
    wrapFont "BOLDFACE CAPITAL" "A" = "\\symbf\x7bA\x7d" := by
  decide

end TexGlyph
