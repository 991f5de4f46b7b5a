import TexGlyph.Proofs.Lexicon.Definition.Group

/-!
# Texts taken apart into groups

The fields of a text are the contents of the groups that it begins with.  There is at most one way to
see a text as blanks and groups with balanced braces (`IsGrouping.unique`): blanks end where the first
brace is, and a group ends at the first brace that leaves nothing open.  The reader finds this way if
there is one (`exists_isGrouping_iff`).

A program that keeps the text as bytes counts the open groups down at a closing brace and cuts the text
at offsets in bytes.  `scanFields` is that program with both steps checked.  The checks never fail: a
brace is counted down only while a group is open, and the brace that ends the field is one byte
(`scanFields_eq`).
-/

namespace TexGlyph

/-! ### One way to take a text apart -/

/-- A group with the blanks in front of it. -/
def groupText (group : List Char × List Char) : List Char :=
  group.1 ++ '\x7b' :: (group.2 ++ ['\x7d'])

/-- Whether a text is a list of groups, each given by the blanks in front of it and its content, and
then the rest. -/
structure IsGrouping (text : List Char) (groups : List (List Char × List Char))
    (rest : List Char) : Prop where
  /-- The groups stand one after the other. -/
  text_eq : text = groups.flatMap groupText ++ rest
  /-- In front of a group there are only blanks. -/
  blank : ∀ group ∈ groups, ∀ c ∈ group.1, isBlank c = true
  /-- The braces inside a group are balanced. -/
  balanced : ∀ group ∈ groups, Balanced '\x7b' '\x7d' group.2

variable {count : Nat} {text gap gap' field field' tail tail' rest rest' : List Char}
  {groups groups' : List (List Char × List Char)} {fields : List (List Char)}

theorem isGrouping_nil_iff : IsGrouping text [] rest ↔ text = rest :=
  ⟨fun h => h.text_eq, fun h => ⟨h, by simp, by simp⟩⟩

theorem isGrouping_cons_iff : IsGrouping text ((gap, field) :: groups) rest ↔
    ∃ tail, text = gap ++ '\x7b' :: (field ++ '\x7d' :: tail) ∧ (∀ c ∈ gap, isBlank c = true) ∧
      Balanced '\x7b' '\x7d' field ∧ IsGrouping tail groups rest := by
  constructor
  · rintro ⟨rfl, hblank, hbalanced⟩
    obtain ⟨hgap, hgaps⟩ := List.forall_mem_cons.1 hblank
    obtain ⟨hfield, hfields⟩ := List.forall_mem_cons.1 hbalanced
    refine ⟨groups.flatMap groupText ++ rest, ?_, hgap, hfield, rfl, hgaps, hfields⟩
    simp [groupText]
  · rintro ⟨tail, rfl, hgap, hfield, rfl, hgaps, hfields⟩
    refine ⟨?_, List.forall_mem_cons.2 ⟨hgap, hgaps⟩, List.forall_mem_cons.2 ⟨hfield, hfields⟩⟩
    simp [groupText]

/-- What follows the blanks in front of a group. -/
theorem trimStart_group (hgap : ∀ c ∈ gap, isBlank c = true) :
    trimStart (gap ++ '\x7b' :: tail) = '\x7b' :: tail :=
  trimStart_append_of_blank hgap fun c hc => by
    rw [← Option.some.inj hc]
    rfl

/-- A text begins with at most one group. -/
theorem group_inj (hgap : ∀ c ∈ gap, isBlank c = true) (hgap' : ∀ c ∈ gap', isBlank c = true)
    (hfield : Balanced '\x7b' '\x7d' field) (hfield' : Balanced '\x7b' '\x7d' field')
    (h : gap ++ '\x7b' :: (field ++ '\x7d' :: tail) =
      gap' ++ '\x7b' :: (field' ++ '\x7d' :: tail')) :
    gap = gap' ∧ field = field' ∧ tail = tail' := by
  have hstart := congrArg trimStart h
  rw [trimStart_group hgap, trimStart_group hgap', List.cons.injEq] at hstart
  have hclose : closeGroup? 0 (field ++ '\x7d' :: tail) = some (field, tail) :=
    closeGroup?_eq_some_iff.2 ⟨rfl, ClosesGroups.zero_iff.2 hfield⟩
  have hclose' : closeGroup? 0 (field' ++ '\x7d' :: tail') = some (field', tail') :=
    closeGroup?_eq_some_iff.2 ⟨rfl, ClosesGroups.zero_iff.2 hfield'⟩
  rw [hstart.2, hclose', Option.some.injEq, Prod.mk.injEq] at hclose
  rw [hstart.2] at h
  exact ⟨List.append_cancel_right h, hclose.1.symm, hclose.2.symm⟩

/-- There is at most one way to take the same number of groups off a text. -/
theorem IsGrouping.unique (h : IsGrouping text groups rest) (h' : IsGrouping text groups' rest')
    (hlength : groups.length = groups'.length) : groups = groups' ∧ rest = rest' := by
  induction groups generalizing text groups' with
  | nil =>
    obtain rfl := List.length_eq_zero_iff.1 hlength.symm
    exact ⟨rfl, (isGrouping_nil_iff.1 h).symm.trans (isGrouping_nil_iff.1 h')⟩
  | cons group groups ih =>
    cases groups' with
    | nil => cases hlength
    | cons group' groups' =>
      obtain ⟨tail, rfl, hgap, hfield, htail⟩ := isGrouping_cons_iff.1 h
      obtain ⟨tail', heq, hgap', hfield', htail'⟩ := isGrouping_cons_iff.1 h'
      obtain ⟨hgaps, hfields, rfl⟩ := group_inj hgap hgap' hfield hfield' heq
      obtain ⟨rfl, hrest⟩ := ih htail htail' (Nat.succ.inj hlength)
      exact ⟨by rw [Prod.ext hgaps hfields], hrest⟩

/-! ### The fields of a text -/

/-- The first field is the content of a group that the text begins with. -/
theorem bracedFields?_succ_eq_some_iff :
    bracedFields? (count + 1) text = some fields ↔
      ∃ gap field tail fields', text = gap ++ '\x7b' :: (field ++ '\x7d' :: tail) ∧
        (∀ c ∈ gap, isBlank c = true) ∧ Balanced '\x7b' '\x7d' field ∧
        bracedFields? count tail = some fields' ∧ fields = field :: fields' := by
  constructor
  · intro h
    have htext : text.takeWhile isBlank ++ trimStart text = text := List.takeWhile_append_dropWhile
    rw [bracedFields?] at h
    split at h
    · rename_i cs hstart
      split at h
      · rename_i field tail hclose
        obtain ⟨fields', hfields', rfl⟩ := Option.map_eq_some_iff.1 h
        obtain ⟨rfl, hcloses⟩ := closeGroup?_eq_some_iff.1 hclose
        refine ⟨text.takeWhile isBlank, field, tail, fields', ?_, ?_,
          ClosesGroups.zero_iff.1 hcloses, hfields', rfl⟩
        · rw [← hstart, htext]
        · exact fun c hc => List.mem_takeWhile_imp hc
      · cases h
    · cases h
  · rintro ⟨gap, field, tail, fields', rfl, hgap, hfield, hfields', rfl⟩
    rw [bracedFields?_group hgap hfield, hfields']
    rfl

theorem exists_isGrouping_iff :
    bracedFields? count text = some fields ↔
      ∃ groups rest, IsGrouping text groups rest ∧ groups.length = count ∧
        fields = groups.map (·.2) := by
  induction count generalizing text fields with
  | zero =>
    constructor
    · intro h
      cases h
      exact ⟨[], text, isGrouping_nil_iff.2 rfl, rfl, rfl⟩
    · rintro ⟨groups, rest, -, hlength, rfl⟩
      obtain rfl := List.length_eq_zero_iff.1 hlength
      rfl
  | succ count ih =>
    rw [bracedFields?_succ_eq_some_iff]
    constructor
    · rintro ⟨gap, field, tail, fields', rfl, hgap, hfield, hfields', rfl⟩
      obtain ⟨groups, rest, hgroups, rfl, rfl⟩ := ih.1 hfields'
      exact ⟨(gap, field) :: groups, rest,
        isGrouping_cons_iff.2 ⟨tail, rfl, hgap, hfield, hgroups⟩, rfl, rfl⟩
    · rintro ⟨groups, rest, hgroups, hlength, rfl⟩
      cases groups with
      | nil => cases hlength
      | cons group groups =>
        obtain ⟨tail, rfl, hgap, hfield, htail⟩ := isGrouping_cons_iff.1 hgroups
        exact ⟨group.1, group.2, tail, groups.map (·.2), rfl, hgap, hfield,
          ih.2 ⟨groups, rest, htail, Nat.succ.inj hlength, rfl⟩, rfl⟩

/-! ### Offsets in bytes -/

/-- What would make a search through the bytes of a text go wrong. -/
inductive ScanFault where
  /-- The counter of open groups falls below zero. -/
  | underflow
  /-- The text is cut inside a character. -/
  | boundary
deriving DecidableEq, Repr

/-- Counts an open group down. -/
def countDown : Nat → Except ScanFault Nat
  | 0 => .error .underflow
  | depth + 1 => .ok depth

/-- The offset of the brace that closes the group that is open, if there is one; `offset` is that of
the first character and `depth` the number of groups open inside. -/
def closingOffset? : Nat → Nat → List Char → Except ScanFault (Option Nat)
  | _, _, [] => .ok none
  | depth, offset, c :: cs =>
    if c = '\x7b' then closingOffset? (depth + 1) (offset + c.utf8Size) cs
    else if c = '\x7d' then
      if depth = 0 then .ok (some offset)
      else (countDown depth).bind fun depth => closingOffset? depth (offset + c.utf8Size) cs
    else closingOffset? depth (offset + c.utf8Size) cs

/-- The parts of a text before and after an offset. -/
def cutAtOffset (text : String) (offset : Nat) : Except ScanFault (String × String) :=
  if h : (⟨offset⟩ : String.Pos.Raw).IsValid text then
    let place := text.pos ⟨offset⟩ h
    .ok ((text.sliceTo place).copy, (text.sliceFrom place).copy)
  else .error .boundary

/-- The contents of the first `count` groups of a text, cut out at the offsets of their braces. -/
def scanFields : Nat → String → Except ScanFault (Option (List String))
  | 0, _ => .ok (some [])
  | count + 1, text =>
    match trimStart text.toList with
    | '\x7b' :: cs =>
      (closingOffset? 0 0 cs).bind fun
        | none => .ok none
        | some offset =>
          (cutAtOffset (String.ofList cs) offset).bind fun field =>
          (cutAtOffset (String.ofList cs) (offset + 1)).bind fun rest =>
          (scanFields count rest.2).map (·.map (field.1 :: ·))
    | _ => .ok none

/-- The size of a text in bytes is that of its characters. -/
theorem utf8ByteSize_ofList_cons (c : Char) (cs : List Char) :
    (String.ofList (c :: cs)).utf8ByteSize = c.utf8Size + (String.ofList cs).utf8ByteSize := by
  rw [String.ofList_cons, String.utf8ByteSize_append, String.utf8ByteSize_singleton]

/-- The brace that closes the open group comes after the bytes of the content, and the counter of open
groups is not counted down too often. -/
theorem closingOffset?_eq (depth offset : Nat) (cs : List Char) :
    closingOffset? depth offset cs = .ok ((closeGroup? depth cs).map fun found =>
      offset + (String.ofList found.1).utf8ByteSize) := by
  have hstep (c : Char) (offset : Nat) (found : Option (List Char × List Char)) :
      found.map (fun found => offset + c.utf8Size + (String.ofList found.1).utf8ByteSize) =
        (found.map fun found => (c :: found.1, found.2)).map
          fun found => offset + (String.ofList found.1).utf8ByteSize := by
    cases found with
    | none => rfl
    | some found => simp only [Option.map_some, utf8ByteSize_ofList_cons, Nat.add_assoc]
  induction cs generalizing depth offset with
  | nil => rfl
  | cons c cs ih =>
    rw [closingOffset?]
    unfold closeGroup?
    split
    · rw [ih, hstep]
    · split
      · cases depth with
        | zero => rfl
        | succ depth =>
          -- A group is open, so the counter can go down.
          rw [if_neg (Nat.succ_ne_zero depth), countDown]
          refine (ih depth _).trans ?_
          rw [hstep]
      · rw [ih, hstep]

/-- A text is cut between its parts where the first of them ends. -/
theorem cutAtOffset_append (front back : List Char) :
    cutAtOffset (String.ofList (front ++ back)) (String.ofList front).utf8ByteSize =
      .ok (String.ofList front, String.ofList back) := by
  rw [String.ofList_append]
  generalize String.ofList front = front, String.ofList back = back
  have hvalid : (⟨front.utf8ByteSize⟩ : String.Pos.Raw).IsValid (front ++ back) :=
    String.Pos.Raw.isValid_iff_exists_append.2 ⟨front, back, rfl, rfl⟩
  have hsplits : ((front ++ back).pos _ hvalid).Splits front back := ⟨rfl, rfl⟩
  rw [cutAtOffset, dif_pos hvalid]
  simp only [hsplits.copy_sliceTo_eq, hsplits.copy_sliceFrom_eq]

/-- A closing brace is one byte. -/
theorem cutAtOffset_brace (field rest : List Char) :
    cutAtOffset (String.ofList (field ++ '\x7d' :: rest)) ((String.ofList field).utf8ByteSize + 1) =
      .ok (String.ofList (field ++ ['\x7d']), String.ofList rest) := by
  have hsize : (String.ofList (field ++ ['\x7d'])).utf8ByteSize =
      (String.ofList field).utf8ByteSize + 1 := by
    rw [String.ofList_append, String.utf8ByteSize_append]
    rfl
  rw [← hsize, ← List.singleton_append, ← List.append_assoc]
  exact cutAtOffset_append (field ++ ['\x7d']) rest

/-- The search through the bytes finds the fields and does not go wrong. -/
theorem scanFields_eq (count : Nat) (text : String) :
    scanFields count text =
      .ok ((bracedFields? count text.toList).map fun fields => fields.map String.ofList) := by
  induction count generalizing text with
  | zero => rfl
  | succ count ih =>
    rw [scanFields]
    split
    · rename_i cs hstart
      -- The offset of the closing brace is the size of the field, which is where a character ends.
      rw [bracedFields?, hstart, closingOffset?_eq]
      simp only [Nat.zero_add]
      cases hclose : closeGroup? 0 cs with
      | none => rfl
      | some found =>
        obtain ⟨field, rest⟩ := found
        obtain ⟨rfl, -⟩ := closeGroup?_eq_some_iff.1 hclose
        simp only [Option.map_some, Except.bind, cutAtOffset_append, cutAtOffset_brace, ih,
          String.toList_ofList, Except.map]
        cases bracedFields? count rest <;> rfl
    · rename_i hno
      have hnone : bracedFields? (count + 1) text.toList = none := by
        rw [bracedFields?]
        split
        · rename_i hstart
          exact absurd hstart (hno _)
        · rfl
      rw [hnone]
      rfl

/-- **The fields of a text are the contents of the groups that it begins with.**  They are found exactly
if the text begins with as many groups, with nothing but blanks in front of each and balanced braces
inside; there is only one way to take these groups off the text; and the search through the bytes finds
them too, where neither the counter of open groups falls below zero nor a character is cut. -/
theorem bracedFields?_isGrouping (count : Nat) (text : String) :
    (∀ fields, bracedFields? count text.toList = some fields ↔
      ∃ groups rest, IsGrouping text.toList groups rest ∧ groups.length = count ∧
        fields = groups.map (·.2)) ∧
    (∀ groups rest groups' rest', IsGrouping text.toList groups rest →
      IsGrouping text.toList groups' rest' → groups.length = count → groups'.length = count →
      groups = groups' ∧ rest = rest') ∧
    scanFields count text =
      .ok ((bracedFields? count text.toList).map fun fields => fields.map String.ofList) := by
  refine ⟨fun fields => exists_isGrouping_iff, ?_, scanFields_eq count text⟩
  intro groups rest groups' rest' h h' hlength hlength'
  exact h.unique h' (hlength.trans hlength'.symm)

/-- A group within a group, a wide blank and an empty group. -/
theorem bracedFields?_isGrouping_nested :
    (∃ groups rest, IsGrouping " \x7ba\x7bé\x7d\x7d\u3000\x7b\x7d%".toList groups rest ∧
      groups.length = 2 ∧ [['a', '\x7b', 'é', '\x7d'], []] = groups.map (·.2)) ∧
      scanFields 2 " \x7ba\x7bé\x7d\x7d\u3000\x7b\x7d%" = .ok (some ["a\x7bé\x7d", ""]) := by
  have hfields : bracedFields? 2 " \x7ba\x7bé\x7d\x7d\u3000\x7b\x7d%".toList =
      some [['a', '\x7b', 'é', '\x7d'], []] := by decide
  obtain ⟨hiff, -, hscan⟩ := bracedFields?_isGrouping 2 " \x7ba\x7bé\x7d\x7d\u3000\x7b\x7d%"
  refine ⟨(hiff _).1 hfields, ?_⟩
  rw [hscan, hfields]
  rfl

end TexGlyph
