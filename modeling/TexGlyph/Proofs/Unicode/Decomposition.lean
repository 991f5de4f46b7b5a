import TexGlyph.Proofs.Unicode.Mapping

/-!
# What a decomposition keeps of its mapping

Sorting a mapping puts the characters of its image into a decomposition, and what is left out there
is never spelled.  `Decomposition.Keeps` says that nothing is left out but the slash at which a
fraction is cut.

Compatibility variants, fractions and mappings without a tag have room for an image of any length.
Font variants, small forms and scripts have room for one character (`Tag.isSingle`) and get the first
of a longer image, so for these tags nothing is left out exactly if the image has one character
(`Decomposition.scalars_ofMapping?`, `Decomposition.keeps_kept_iff`).  In the database the longer
images under such a tag are those of five marks in superscript (`everyMapping_single`).
-/

namespace TexGlyph

namespace Tag

/-- The tags whose mappings have a rendering. -/
def rendered : List Tag := [font, small, compat, super, sub, fraction]

/-- Whether a decomposition with this tag has room for one character only. -/
def isSingle : Tag → Bool
  | font | small | super | sub => true
  | _ => false

end Tag

namespace Decomposition

/-- Whether characters are those of an image, in order, but for the first slash of a fraction. -/
inductive Keeps : Option Tag → List Char → List Char → Prop where
  /-- All characters are there. -/
  | whole (tag : Option Tag) (image : List Char) : Keeps tag image image
  /-- The slash between the two parts of a fraction is left out. -/
  | cut {above below : List Char} {slash : Char} (habove : ∀ x ∈ above, isFractionSlash x = false)
      (hslash : isFractionSlash slash = true) :
    Keeps (some .fraction) (above ++ slash :: below) (above ++ below)

/-- What sorting keeps of an image. -/
def kept : Option Tag → List Char → List Char
  | none, image => image
  | some .fraction, image =>
    image.takeWhile (!isFractionSlash ·) ++ (image.dropWhile (!isFractionSlash ·)).drop 1
  | some tag, image => if tag.isSingle then image.take 1 else image

/-! ### Sorting -/

/-- **Every mapping with a rendering is sorted**, and its decomposition has what is kept of the
image. -/
theorem scalars_ofMapping? {tag : Option Tag} {image : List Char}
    (htag : ∀ t ∈ tag, t ∈ Tag.rendered) (himage : image ≠ []) :
    ∃ d, ofMapping? ⟨tag, image⟩ = some d ∧ d.scalars = kept tag image := by
  obtain ⟨first, rest, rfl⟩ := List.exists_cons_of_ne_nil himage
  cases tag with
  | none =>
    -- Two characters are a base with a mark, any other number is kept as a list.
    rcases rest with _ | ⟨mark, _ | ⟨next, rest⟩⟩
    · exact ⟨.canonical [first], rfl, rfl⟩
    · exact ⟨.accented first mark, rfl, rfl⟩
    · exact ⟨.canonical (first :: mark :: next :: rest), rfl, rfl⟩
  | some tag =>
    have hmem := htag tag rfl
    simp only [Tag.rendered, List.mem_cons, List.not_mem_nil, or_false] at hmem
    rcases hmem with rfl | rfl | rfl | rfl | rfl | rfl
    · exact ⟨.font first, rfl, rfl⟩
    · exact ⟨.small first, rfl, rfl⟩
    · exact ⟨.compat (first :: rest), rfl, rfl⟩
    · exact ⟨.script .super first, rfl, rfl⟩
    · exact ⟨.script .sub first, rfl, rfl⟩
    · exact ⟨.fraction _ _, rfl, rfl⟩

/-- No compatibility variant is empty. -/
theorem ofMapping?_ne_compat_nil (m : Mapping) : ofMapping? m ≠ some (.compat []) := by
  intro h
  have himage : m.image = [] := (mapping_of_compat h).2
  rw [ofMapping?, himage] at h
  cases h

/-- The two parts of a fraction have all characters but the first slash. -/
theorem keeps_fraction (image : List Char) :
    Keeps (some .fraction) image (kept (some .fraction) image) := by
  have habove : ∀ x ∈ image.takeWhile (!isFractionSlash ·), isFractionSlash x = false := by
    intro x hx
    simpa using List.mem_takeWhile_imp hx
  have hsplit : image.takeWhile (!isFractionSlash ·) ++ image.dropWhile (!isFractionSlash ·) =
      image := List.takeWhile_append_dropWhile
  show Keeps (some .fraction) image
    (image.takeWhile (!isFractionSlash ·) ++ (image.dropWhile (!isFractionSlash ·)).drop 1)
  -- The cut is at the first slash, if there is one.
  cases hrest : image.dropWhile (!isFractionSlash ·) with
  | nil =>
    rw [hrest] at hsplit
    rw [List.drop_nil, hsplit]
    exact .whole _ image
  | cons slash below =>
    have hslash : isFractionSlash slash = true := by
      have hhead := List.head?_dropWhile_not (!isFractionSlash ·) image
      simpa [hrest] using hhead
    rw [hrest] at hsplit
    have hcut : Keeps (some .fraction) (image.takeWhile (!isFractionSlash ·) ++ slash :: below)
        (image.takeWhile (!isFractionSlash ·) ++ below) := .cut habove hslash
    rw [hsplit] at hcut
    exact hcut

/-- An image is kept unless it is longer than its tag has room for. -/
theorem keeps_kept_iff {tag : Option Tag} {image : List Char} (himage : image ≠ []) :
    Keeps tag image (kept tag image) ↔ ∀ t ∈ tag, t.isSingle = true → image.length = 1 := by
  cases tag with
  | none => exact ⟨fun _ t ht => absurd ht (by simp), fun _ => .whole none image⟩
  | some tag =>
    by_cases hfraction : tag = .fraction
    · subst hfraction
      refine ⟨fun _ t ht hsingle => ?_, fun _ => keeps_fraction image⟩
      obtain rfl := Option.some.inj ht
      cases hsingle
    · have hkept : kept (some tag) image = if tag.isSingle then image.take 1 else image := by
        cases tag <;> first | rfl | exact absurd rfl hfraction
      rw [hkept]
      constructor
      · intro h t ht hsingle
        obtain rfl := Option.some.inj ht
        rw [if_pos hsingle] at h
        -- Without a slash to leave out, what is kept is the image.
        have hwhole : image = image.take 1 := by
          generalize hshort : image.take 1 = short at h
          cases h with
          | whole => rfl
          | cut => exact absurd rfl hfraction
        have hlength := congrArg List.length hwhole
        rw [List.length_take] at hlength
        have hpos := List.length_pos_of_ne_nil himage
        omega
      · intro h
        by_cases hsingle : tag.isSingle = true
        · rw [if_pos hsingle, List.take_of_length_le (h tag rfl hsingle).le]
          exact .whole _ image
        · rw [if_neg hsingle]
          exact .whole _ image

/-! ### Reading -/

/-- No tag of the database is written like a code point. -/
theorem head?_word_of_rendered {tag : Tag} (h : tag ∈ Tag.rendered) :
    tag.word.toList.head? = some '<' ∧ Tag.ofWord tag.word = tag := by
  have hall : Tag.rendered.all (fun tag =>
      tag.word.toList.head? == some '<' && Tag.ofWord tag.word == tag) = true := by
    decide
  simpa using List.all_eq_true.1 hall tag h

/-- A code point does not begin with an angle bracket. -/
theorem head?_ne_of_scalar? {code : List Char} {c : Char} (h : Hex.scalar? code = some c) :
    code.head? ≠ some '<' := by
  intro hhead
  obtain ⟨rest, rfl⟩ := List.head?_eq_some_iff.1 hhead
  have hnone : Hex.scalar? ('<' :: rest) = none := rfl
  rw [hnone] at h
  cases h

/-- A text whose words are a tag with a rendering, or no tag, and code points is read as the mapping
with this tag and these characters. -/
theorem mapping_read? {s : String} {tag : Option Tag} {codes : List (List Char)}
    {image : List Char} (htag : ∀ t ∈ tag, t ∈ Tag.rendered)
    (hwords : words s.toList = (tag.map (·.word.toList)).toList ++ codes) (hne : codes ≠ [])
    (hcodes : codes.mapM Hex.scalar? = some image) : Mapping.read? s = some ⟨tag, image⟩ := by
  rw [Mapping.read?, hwords]
  cases tag with
  | none =>
    obtain ⟨code, rest, rfl⟩ := List.exists_cons_of_ne_nil hne
    -- The first word is a code point, so it is not taken for a tag.
    have hfirst : code.head? ≠ some '<' := by
      rw [List.mapM_cons, Option.bind_eq_bind, Option.bind_eq_some_iff] at hcodes
      obtain ⟨c, hc, _⟩ := hcodes
      exact head?_ne_of_scalar? hc
    simp only [Option.map_none, Option.toList_none, List.nil_append, if_neg hfirst, hcodes,
      Option.map_some]
  | some tag =>
    obtain ⟨hbracket, hword⟩ := head?_word_of_rendered (htag tag rfl)
    simp only [Option.map_some, Option.toList_some, List.singleton_append, if_pos hbracket, hcodes,
      String.ofList_toList, hword]

/-! ### The database -/

/-- The five marks in superscript with two letters, of which the second one is lost. -/
def shortened : List Char := ['\u2120', '\u2122', '🅪', '🅫', '🅬']

/-- No image is empty, and an image that is longer than its tag has room for is that of one of the
five marks. -/
theorem everyMapping_single :
    everyMapping (fun n tag image =>
      !image.isEmpty &&
        match tag with
        | none => true
        | some tag =>
          !tag.isSingle || Nat.beq image.length 1 || shortened.contains (Char.ofNat n)) = true := by
  decide +kernel

/-- The images of the five marks are longer than their tag has room for. -/
theorem all_shortened_long :
    shortened.all (fun c => (Mapping.of? c).any fun m =>
      m.tag.any Tag.isSingle && Nat.blt 1 m.image.length) = true := by
  decide +kernel

/-- An image in the database is not empty, and it is longer than its tag has room for if it is that
of one of the five marks. -/
theorem image_of_mappingOf? {c : Char} {m : Mapping} (h : Mapping.of? c = some m) :
    m.image ≠ [] ∧
      ((∀ t ∈ m.tag, t.isSingle = true → m.image.length = 1) ↔ c ∉ shortened) := by
  have hof := h
  rw [Mapping.of?, Option.map_eq_some_iff] at h
  obtain ⟨⟨tag, image⟩, hat, rfl⟩ := h
  have hsweep := of_everyMapping everyMapping_single hat
  rw [Char.ofNat_toNat, Bool.and_eq_true] at hsweep
  obtain ⟨hnonempty, hroom⟩ := hsweep
  refine ⟨by simpa using hnonempty, ?_, ?_⟩
  · intro hone hshort
    have hlong := List.all_eq_true.1 all_shortened_long c hshort
    rw [hof, Option.any_some, Bool.and_eq_true, Option.any_eq_true, Nat.blt_eq] at hlong
    obtain ⟨⟨t, ht, hsingle⟩, hlength⟩ := hlong
    have := hone t ht hsingle
    omega
  · rintro hnot t rfl hsingle
    have hkept : Nat.beq image.length 1 = true := by
      simpa [hsingle, List.contains_iff_mem, hnot] using hroom
    rw [List.length_map]
    exact Nat.eq_of_beq_eq_true hkept

/-- **Sorting loses no character of a mapping, unless its tag has room for one and the image is
longer.**  Every written mapping that has code points and a tag with a rendering, or no tag, is read
and sorted; and its decomposition keeps all characters in order, but for the slash of a fraction,
exactly if a font variant, a small form or a script has one character.  A character of the database
with this mapping gets this decomposition, and it is kept unless the character is one of five
marks. -/
theorem keeps_read?_iff {s : String} {tag : Option Tag} {codes : List (List Char)}
    {image : List Char} (htag : ∀ t ∈ tag, t ∈ Tag.rendered)
    (hwords : words s.toList = (tag.map (·.word.toList)).toList ++ codes) (hne : codes ≠ [])
    (hcodes : codes.mapM Hex.scalar? = some image) :
    ∃ d, read? s = some d ∧
      (Keeps tag image d.scalars ↔ ∀ t ∈ tag, t.isSingle = true → image.length = 1) ∧
      ∀ c, Mapping.of? c = some ⟨tag, image⟩ →
        of? c = some d ∧ (Keeps tag image d.scalars ↔ c ∉ shortened) := by
  have himage : image ≠ [] := by
    obtain ⟨code, rest, rfl⟩ := List.exists_cons_of_ne_nil hne
    rintro rfl
    simp [Option.bind_eq_some_iff] at hcodes
  obtain ⟨d, hd, hscalars⟩ := scalars_ofMapping? htag himage
  have hread : read? s = some d := by
    rw [read?, mapping_read? htag hwords hne hcodes, Option.bind_some, hd]
  have hkeeps : Keeps tag image d.scalars ↔ ∀ t ∈ tag, t.isSingle = true → image.length = 1 := by
    rw [hscalars, keeps_kept_iff himage]
  refine ⟨d, hread, hkeeps, fun c hc => ⟨?_, ?_⟩⟩
  · rw [of?, hc, Option.bind_some, hd]
  · exact hkeeps.trans (image_of_mappingOf? hc).2

/-- A fraction is read however its code points are written and loses nothing but its slash. -/
theorem keeps_read?_tenth :
    words "\t<fraction> +31 2044\u00A000031 30 ".toList =
        ["<fraction>".toList, "+31".toList, "2044".toList, "00031".toList, "30".toList] ∧
      ["+31".toList, "2044".toList, "00031".toList, "30".toList].mapM Hex.scalar? =
        some ['1', '\u2044', '1', '0'] ∧
      Mapping.of? '⅒' = some ⟨some .fraction, ['1', '\u2044', '1', '0']⟩ ∧
      ∃ d, read? "\t<fraction> +31 2044\u00A000031 30 " = some d ∧ of? '⅒' = some d ∧
        Keeps (some .fraction) ['1', '\u2044', '1', '0'] d.scalars := by
  have hwords : words "\t<fraction> +31 2044\u00A000031 30 ".toList =
      ["<fraction>".toList, "+31".toList, "2044".toList, "00031".toList, "30".toList] := by
    decide +kernel
  have hcodes : ["+31".toList, "2044".toList, "00031".toList, "30".toList].mapM Hex.scalar? =
      some ['1', '\u2044', '1', '0'] := by
    decide +kernel
  have hmapping : Mapping.of? '⅒' = some ⟨some .fraction, ['1', '\u2044', '1', '0']⟩ := by
    decide +kernel
  have htag : ∀ t ∈ some Tag.fraction, t ∈ Tag.rendered := by decide
  obtain ⟨d, hread, hkeeps, hdatabase⟩ :=
    keeps_read?_iff htag hwords (List.cons_ne_nil _ _) hcodes
  exact ⟨hwords, hcodes, hmapping, d, hread, (hdatabase '⅒' hmapping).1, hkeeps.2 (by decide)⟩

/-- Of the two letters of the trade mark sign the second one is lost. -/
theorem not_keeps_read?_trademark :
    words "<super> 0054 004D".toList = [Tag.super.word.toList, "0054".toList, "004D".toList] ∧
      ["0054".toList, "004D".toList].mapM Hex.scalar? = some ['T', 'M'] ∧
      Mapping.of? '\u2122' = Mapping.read? "<super> 0054 004D" ∧
      read? "<super> 0054 004D" = some (.script .super 'T') ∧
      ¬ Keeps (some .super) ['T', 'M'] (Decomposition.script .super 'T').scalars := by
  refine ⟨by decide +kernel, by decide +kernel, by decide +kernel, by decide +kernel, ?_⟩
  intro h
  cases h

end Decomposition

end TexGlyph
