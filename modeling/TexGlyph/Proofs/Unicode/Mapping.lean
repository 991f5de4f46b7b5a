import TexGlyph.Latex.Ligature
import TexGlyph.Proofs.Latex.Group
import TexGlyph.Proofs.Lookup
import TexGlyph.Text.Part
import TexGlyph.Unicode.Block
import TexGlyph.Unicode.Decomposition.Rank
import TexGlyph.Unicode.Name.Table

/-!
# What the mappings have in common

The spelling of a text relies on a few properties of the table of mappings as a whole.  Each of
them is a sweep over the table (`everyMapping`), which the kernel evaluates once; `of_everyMapping`
hands the result to any mapping that a search finds.

* No character of ASCII has a mapping (`Decomposition.of?_eq_none_of_ascii`), and neither has a
  mark with an accent command (`Decomposition.of?_eq_none_of_accentTag?`).
* A ligature contains no mark with an accent command
  (`Decomposition.accentTag?_eq_none_of_mem_ligature`), and no ligature is the base under one
  (`Decomposition.isLigature_base_of_accented`).
* A variant of a Greek letter is made from a letter without a decomposition
  (`Decomposition.of?_eq_none_of_greek`).
* Only small forms are taken apart into markup (`Decomposition.eq_small_of_isMarkup`), and nothing
  is taken apart into a small form (`Decomposition.of?_ne_small_of_mem_scalars`).
-/

namespace TexGlyph

/-! ### Sweeps over the table -/

/-- Whether `p` holds of each image of a run, which are those of the code points from `n` on. -/
def everyImage (p : Nat → Option Tag → List Nat → Bool) (tag : Option Tag) :
    Nat → List (List Nat) → Bool
  | _, [] => true
  | n, image :: images => p n tag image && everyImage p tag (n + 1) images

/-- Whether `p` holds of each mapping of the table: of the code point, the tag and the image. -/
def everyMapping (p : Nat → Option Tag → List Nat → Bool) : Bool :=
  mappingRuns.all fun run => everyImage p run.tag run.first run.images

theorem of_everyImage {p : Nat → Option Tag → List Nat → Bool} {tag : Option Tag}
    {images : List (List Nat)} {image : List Nat} {n i : Nat}
    (h : everyImage p tag n images = true) (hi : images[i]? = some image) :
    p (n + i) tag image = true := by
  induction images generalizing n i with
  | nil => simp at hi
  | cons head images ih =>
    rw [everyImage, Bool.and_eq_true] at h
    cases i with
    | zero =>
      rw [List.getElem?_cons_zero, Option.some.injEq] at hi
      rw [← hi]
      exact h.1
    | succ i =>
      rw [List.getElem?_cons_succ] at hi
      rw [show n + (i + 1) = n + 1 + i by omega]
      exact ih h.2 hi

/-- A property that was found in every mapping of the table holds of a mapping that a search
finds. -/
theorem of_everyMapping {p : Nat → Option Tag → List Nat → Bool} {n : Nat} {tag : Option Tag}
    {image : List Nat} (h : everyMapping p = true) (hm : mappingAt? n = some (tag, image)) :
    p n tag image = true := by
  obtain ⟨run, hrun, rfl, i, himage, rfl⟩ := Mapping.exists_run_of_mappingAt? hm
  exact of_everyImage (List.all_eq_true.1 h run hrun) himage

namespace Decomposition

/-- A decomposition comes from a mapping of the table. -/
theorem exists_mappingAt?_of_of? {c : Char} {d : Decomposition} (h : of? c = some d) :
    ∃ tag image, mappingAt? c.toNat = some (tag, image) ∧
      ofMapping? ⟨tag, image.map Char.ofNat⟩ = some d := by
  rw [of?, Option.bind_eq_some_iff] at h
  obtain ⟨m, hm, hd⟩ := h
  rw [Mapping.of?, Option.map_eq_some_iff] at hm
  obtain ⟨⟨tag, image⟩, hat, rfl⟩ := hm
  exact ⟨tag, image, hat, hd⟩

theorem of?_eq_none_of_mappingAt? {c : Char} (h : mappingAt? c.toNat = none) : of? c = none := by
  rw [of?, Mapping.of?, h]
  rfl

/-- Only a mapping without a tag whose image has two characters is read as a base with a mark. -/
theorem mapping_of_accented {m : Mapping} {base mark : Char}
    (h : ofMapping? m = some (.accented base mark)) : m.tag = none ∧ m.image = [base, mark] := by
  unfold ofMapping? at h
  split at h
  · cases h
  · rename_i first rest himage
    split at h
    · rename_i htag
      split at h
      · cases h
        exact ⟨htag, himage⟩
      · cases h
    all_goals cases h

/-- Only a mapping with the tag of compatibility variants is read as one, and its image is
kept. -/
theorem mapping_of_compat {m : Mapping} {scalars : List Char}
    (h : ofMapping? m = some (.compat scalars)) : m.tag = some .compat ∧ m.image = scalars := by
  unfold ofMapping? at h
  split at h
  · cases h
  · split at h
    · split at h <;> cases h
    all_goals cases h
    rename_i htag
    exact ⟨htag, rfl⟩

end Decomposition

/-! ### ASCII -/

theorem everyMapping_foreign : everyMapping (fun n _ _ => Nat.ble 0x80 n) = true := by
  decide +kernel

namespace Decomposition

/-- No character of ASCII has a decomposition. -/
theorem of?_eq_none_of_ascii {c : Char} (h : c.toNat ≤ 0x7F) : of? c = none := by
  apply of?_eq_none_of_mappingAt?
  rw [Option.eq_none_iff_forall_ne_some]
  rintro ⟨tag, image⟩ hm
  have hle := Nat.le_of_ble_eq_true (of_everyMapping everyMapping_foreign hm)
  omega

end Decomposition

/-! ### Marks with an accent command -/

theorem all_accentTags_unmapped :
    accentTags.all (fun entry => (mappingAt? entry.1.toNat).isNone) = true := by
  decide

theorem all_accentTags_combining :
    accentTags.all (fun entry => isCombiningMark entry.1) = true := by
  decide

/-- The marks of accent commands are combining marks. -/
theorem isCombiningMark_of_accentTag? {mark tag : Char} (h : accentTag? mark = some tag) :
    isCombiningMark mark = true :=
  List.all_eq_true.1 all_accentTags_combining (mark, tag) (mem_of_lookup h)

namespace Decomposition

/-- No mark with an accent command has a decomposition. -/
theorem of?_eq_none_of_accentTag? {mark tag : Char} (h : accentTag? mark = some tag) :
    of? mark = none := by
  apply of?_eq_none_of_mappingAt?
  simpa using List.all_eq_true.1 all_accentTags_unmapped (mark, tag) (mem_of_lookup h)

end Decomposition

/-! ### Quotes and dashes -/

/-- No quote and no dash that has an ASCII spelling is mapped to others without a tag. -/
theorem all_spellings_untagged :
    (quoteSpellings ++ dashSpellings).all (fun entry =>
      match mappingAt? entry.1.toNat with
      | some (none, _) => false
      | _ => true) = true := by
  decide

theorem all_accentTags_unspelled :
    accentTags.all (fun entry =>
      (quoteSpellings.lookup entry.1).isNone && (dashSpellings.lookup entry.1).isNone) = true := by
  decide

/-- A character that is mapped to others without a tag is no quote and no dash. -/
theorem lookup_spellings_of_untagged {c : Char} {image : List Char}
    (h : Mapping.of? c = some ⟨none, image⟩) :
    quoteSpellings.lookup c = none ∧ dashSpellings.lookup c = none := by
  obtain ⟨⟨tag, codes⟩, hm, heq⟩ := Option.map_eq_some_iff.1 h
  obtain rfl : tag = none := (Mapping.mk.inj heq).1
  -- The mapping of `c` has no tag, and those of quotes and dashes do.
  have hne : ∀ spelling, (c, spelling) ∉ quoteSpellings ++ dashSpellings := by
    intro spelling hmem
    have hsweep := List.all_eq_true.1 all_spellings_untagged _ hmem
    rw [hm] at hsweep
    cases hsweep
  constructor
  · rw [Option.eq_none_iff_forall_ne_some]
    exact fun spelling hl => hne spelling (List.mem_append_left _ (mem_of_lookup hl))
  · rw [Option.eq_none_iff_forall_ne_some]
    exact fun spelling hl => hne spelling (List.mem_append_right _ (mem_of_lookup hl))

/-- A character that decomposes into a base with a mark is no quote and no dash. -/
theorem lookup_spellings_of_accented {c base mark : Char}
    (h : Decomposition.of? c = some (.accented base mark)) :
    quoteSpellings.lookup c = none ∧ dashSpellings.lookup c = none := by
  obtain ⟨⟨tag, image⟩, hm, hd⟩ := Option.bind_eq_some_iff.1 h
  obtain rfl : tag = none := (Decomposition.mapping_of_accented hd).1
  exact lookup_spellings_of_untagged hm

/-- A mark with an accent command is no quote and no dash. -/
theorem lookup_spellings_of_accentTag? {mark tag : Char} (h : accentTag? mark = some tag) :
    quoteSpellings.lookup mark = none ∧ dashSpellings.lookup mark = none := by
  simpa using List.all_eq_true.1 all_accentTags_unspelled (mark, tag) (mem_of_lookup h)

/-! ### Ligatures -/

/-- Whether the name of a character says that it is a ligature. -/
def isLigature (c : Char) : Bool := (charName? c).any (occursIn "LIGATURE")

theorem everyMapping_ligature :
    everyMapping (fun n tag image =>
      match tag with
      | some .compat =>
        !((image.any fun k => (accentTag? (Char.ofNat k)).isSome) && isLigature (Char.ofNat n))
      | _ => true) = true := by
  decide +kernel

theorem everyMapping_base :
    everyMapping (fun _ tag image =>
      match tag, image with
      | none, [base, mark] =>
        !((accentTag? (Char.ofNat mark)).isSome &&
          match mappingAt? (Char.ofNat base).toNat with
          | some (some .compat, _) => isLigature (Char.ofNat base)
          | _ => false)
      | _, _ => true) = true := by
  decide +kernel

namespace Decomposition

/-- A ligature contains no mark with an accent command. -/
theorem accentTag?_eq_none_of_mem_ligature {c x : Char} {scalars : List Char}
    (h : of? c = some (.compat scalars)) (hname : isLigature c = true) (hx : x ∈ scalars) :
    accentTag? x = none := by
  obtain ⟨tag, image, hm, hd⟩ := exists_mappingAt?_of_of? h
  obtain ⟨htag, himage⟩ := mapping_of_compat hd
  obtain rfl : tag = some .compat := htag
  obtain rfl : image.map Char.ofNat = scalars := himage
  obtain ⟨k, hk, rfl⟩ := List.mem_map.1 hx
  have hsweep := of_everyMapping everyMapping_ligature hm
  rw [Char.ofNat_toNat, hname, Bool.and_true, Bool.not_eq_true', List.any_eq_false] at hsweep
  simpa using hsweep k hk

/-- The base under a mark with an accent command is no ligature. -/
theorem isLigature_base_of_accented {c base mark tag : Char} {scalars : List Char}
    (h : of? c = some (.accented base mark)) (hmark : accentTag? mark = some tag)
    (hbase : of? base = some (.compat scalars)) : isLigature base = false := by
  obtain ⟨ctag, image, hm, hd⟩ := exists_mappingAt?_of_of? h
  obtain ⟨htag, himage⟩ := mapping_of_accented hd
  obtain ⟨btag, bimage, hbm, hbd⟩ := exists_mappingAt?_of_of? hbase
  obtain rfl : ctag = none := htag
  obtain rfl : btag = some .compat := (mapping_of_compat hbd).1
  -- The sweep went over code points, so `base` and `mark` have to be read back as such.
  obtain ⟨b, m, rfl, rfl, rfl⟩ : ∃ b m, image = [b, m] ∧ base = Char.ofNat b ∧
      mark = Char.ofNat m := by
    match image, himage with
    | [b, m], himage =>
      simp only [List.map_cons, List.map_nil, List.cons.injEq, and_true] at himage
      exact ⟨b, m, rfl, himage.1.symm, himage.2.symm⟩
  have hsweep := of_everyMapping everyMapping_base hm
  simpa only [hmark, hbm, Option.isSome_some, Bool.true_and, Bool.not_eq_true'] using hsweep

end Decomposition

/-! ### Variants of Greek letters -/

/-- A variant that is made from a character of the Greek block is made from one that has no mapping
itself. -/
theorem everyMapping_greek :
    everyMapping (fun _ tag image =>
      match tag, image with
      | some .compat, first :: _ =>
        !isGreekBlock (Char.ofNat first) || (mappingAt? (Char.ofNat first).toNat).isNone
      | _, _ => true) = true := by
  decide +kernel

theorem all_accentTags_outside_greek :
    accentTags.all (fun entry => !isGreekBlock entry.1) = true := by
  decide

/-- The letter that a variant of a Greek letter is made from has no decomposition and is no mark. -/
theorem Decomposition.of?_eq_none_of_greek {c first : Char} {rest : List Char}
    (h : of? c = some (.compat (first :: rest))) (hgreek : isGreekBlock first = true) :
    of? first = none ∧ accentTag? first = none := by
  obtain ⟨tag, image, hm, hd⟩ := exists_mappingAt?_of_of? h
  obtain ⟨htag, himage⟩ := mapping_of_compat hd
  obtain rfl : tag = some .compat := htag
  obtain ⟨n, ns, rfl, rfl, rfl⟩ := List.map_eq_cons_iff.1 himage
  have hsweep := of_everyMapping everyMapping_greek hm
  simp only [hgreek, Bool.not_true, Bool.false_or, Option.isNone_iff_eq_none] at hsweep
  refine ⟨of?_eq_none_of_mappingAt? hsweep, ?_⟩
  cases hmark : accentTag? (Char.ofNat n) with
  | none => rfl
  | some tag =>
    have houtside := List.all_eq_true.1 all_accentTags_outside_greek _ (mem_of_lookup hmark)
    rw [hgreek] at houtside
    cases houtside

/-! ### Markup -/

/-- Whether `n` is the code point of a backslash, a percent sign or a brace. -/
def isMarkupCode (n : Nat) : Bool :=
  Nat.beq n 0x5C || Nat.beq n 0x25 || Nat.beq n 0x7B || Nat.beq n 0x7D

theorem isMarkupCode_of_isMarkup {c : Char} (h : isMarkup c = true) :
    isMarkupCode c.toNat = true := by
  simp only [isMarkup, Bool.or_eq_true, decide_eq_true_eq] at h
  rcases h with ((rfl | rfl) | rfl) | rfl <;> rfl

/-- Whether `n` is the code point of a small form. -/
def isSmallFormCode (n : Nat) : Bool := Nat.ble 0xFE50 n && Nat.ble n 0xFE6F

/-- Small forms have code points of their own, which stand in no image, and of the other mappings
only those for vertical layout and for full width have markup in their images. -/
theorem everyMapping_markup :
    everyMapping (fun n tag image =>
      (match tag with
        | some .small => isSmallFormCode n
        | some .vertical => true
        | some .wide => true
        | _ => image.all fun k => !isMarkupCode (Char.ofNat k).toNat) &&
      image.all fun k => !isSmallFormCode (Char.ofNat k).toNat) = true := by
  decide +kernel

namespace Decomposition

/-- Only a mapping with the tag of small forms is read as one. -/
theorem tag_of_small {m : Mapping} {base : Char} (h : ofMapping? m = some (.small base)) :
    m.tag = some .small := by
  unfold ofMapping? at h
  split at h
  · cases h
  · split at h
    · split at h <;> cases h
    all_goals cases h
    assumption

/-- Only small forms are taken apart into markup. -/
theorem eq_small_of_isMarkup {c x : Char} {d : Decomposition} (h : of? c = some d)
    (hx : x ∈ d.scalars) (hmarkup : isMarkup x = true) : d = .small x := by
  obtain ⟨tag, image, hm, hd⟩ := exists_mappingAt?_of_of? h
  obtain ⟨k, hk, rfl⟩ := List.mem_map.1 (mem_image_of_ofMapping? hd hx)
  have hcode := isMarkupCode_of_isMarkup hmarkup
  have hsweep := of_everyMapping everyMapping_markup hm
  rw [Bool.and_eq_true] at hsweep
  have hfirst := hsweep.1
  unfold ofMapping? at hd
  split at hd
  · cases hd
  · -- The tags of the sweep: small, vertical, wide, and the others.
    split at hfirst
    · -- A small form has one character.
      obtain rfl := Option.some.inj hd
      rw [scalars, List.mem_singleton] at hx
      rw [hx]
    · obtain rfl := Option.some.inj hd
      cases hx
    · obtain rfl := Option.some.inj hd
      cases hx
    · have hplain := List.all_eq_true.1 hfirst k hk
      rw [hcode] at hplain
      cases hplain

/-- Nothing is taken apart into a small form. -/
theorem of?_ne_small_of_mem_scalars {c x base : Char} {d : Decomposition} (h : of? c = some d)
    (hx : x ∈ d.scalars) : of? x ≠ some (.small base) := by
  intro hsmall
  obtain ⟨tag, image, hm, hd⟩ := exists_mappingAt?_of_of? h
  obtain ⟨xtag, ximage, hxm, hxd⟩ := exists_mappingAt?_of_of? hsmall
  obtain rfl : xtag = some .small := tag_of_small hxd
  obtain ⟨k, hk, rfl⟩ := List.mem_map.1 (mem_image_of_ofMapping? hd hx)
  have hsweep := of_everyMapping everyMapping_markup hm
  have hxsweep := of_everyMapping everyMapping_markup hxm
  rw [Bool.and_eq_true] at hsweep hxsweep
  have hsmallForm : isSmallFormCode (Char.ofNat k).toNat = true := hxsweep.1
  have hcode := List.all_eq_true.1 hsweep.2 k hk
  rw [hsmallForm] at hcode
  cases hcode

end Decomposition

end TexGlyph
