import Mathlib.Tactic.Ring
import TexGlyph.Encoding.Utf8

/-!
# Well-formed UTF-8

The decoder takes one byte at a time and marks what it cannot read; the UTF-8 form of a character is a
first byte and six bits of its number in each byte after it (`utf8EncodeChar_eq`).  The two agree:
bytes without a malformed sequence are the form of a text, which is the text that is read
(`text?_eq_some_iff`), so what has a text is what is valid UTF-8 (`isSome_text?_iff`).

Inside a sequence the decoder has read the high bits of some number and knows which byte may come
next.  `Sequence.Begins` says which numbers these are.  The sequence is read to its end exactly if
the other bytes of one of them follow (`decodeFrom_continuation`, `exists_continuation`), and a first
byte lets in the numbers whose form it begins, and no others (`Sequence.OpenedBy`, `first_cases`).
-/

namespace TexGlyph.Utf8

/-! ### The form of a character -/

/-- The last bytes of the form of a number: `more` bytes and one, with six bits each. -/
def continuation (v : Nat) : Nat → List UInt8
  | 0 => [UInt8.ofNat (v % 64 + 128)]
  | more + 1 => UInt8.ofNat (v / 64 ^ (more + 1) % 64 + 128) :: continuation v more

/-- The first byte of the form of a number: the number itself, or its high bits with a tag for the
number of bytes that follow. -/
def lead (v : Nat) : Nat :=
  if v ≤ 0x7F then v
  else if v ≤ 0x7FF then v / 64 + 0xC0
  else if v ≤ 0xFFFF then v / 4096 + 0xE0
  else v / 262144 + 0xF0

/-- A character is written by its first byte and the bytes that this one asks for. -/
theorem utf8EncodeChar_eq (c : Char) :
    String.utf8EncodeChar c = UInt8.ofNat (lead c.toNat) ::
      if c.toNat ≤ 0x7F then []
      else if c.toNat ≤ 0x7FF then continuation c.toNat 0
      else if c.toNat ≤ 0xFFFF then continuation c.toNat 1
      else continuation c.toNat 2 := by
  have hvalid : c.toNat.isValidChar := c.valid
  simp only [String.utf8EncodeChar, Char.toNat_val, lead]
  generalize c.toNat = v at hvalid
  split
  · rfl
  · split
    · have hmod : v / 64 % 32 = v / 64 := Nat.mod_eq_of_lt (by omega)
      rw [hmod]
      rfl
    · split
      · have hmod : v / 4096 % 16 = v / 4096 := Nat.mod_eq_of_lt (by omega)
        rw [hmod]
        rfl
      · have hmod : v / 262144 % 8 = v / 262144 := by
          apply Nat.mod_eq_of_lt
          rcases hvalid with h | h <;> omega
        rw [hmod]
        rfl

/-! ### Inside a sequence -/

/-- Whether `v` is one of the numbers that a sequence may turn out to be the form of. -/
structure Sequence.Begins (s : Sequence) (v : Nat) : Prop where
  /-- The bits that were read are the high bits of the number. -/
  value : v / 64 ^ (s.more + 1) = s.value
  /-- The next byte of the form is not too small. -/
  low : s.low.toNat ≤ v / 64 ^ s.more % 64 + 128
  /-- The next byte of the form is not too great. -/
  high : v / 64 ^ s.more % 64 + 128 ≤ s.high.toNat

variable {s : Sequence} {b low high : UInt8} {bytes : List UInt8} {v value more : Nat}

theorem begins_iff : Sequence.Begins ⟨value, low, high, more⟩ v ↔
    v / 64 ^ (more + 1) = value ∧ low.toNat ≤ v / 64 ^ more % 64 + 128 ∧
      v / 64 ^ more % 64 + 128 ≤ high.toNat :=
  ⟨fun h => ⟨h.value, h.low, h.high⟩, fun h => ⟨h.1, h.2.1, h.2.2⟩⟩

/-- The last byte of a sequence gives the character. -/
theorem decodeFrom_last (h : low ≤ b ∧ b ≤ high) :
    decodeFrom (some ⟨value, low, high, 0⟩) (b :: bytes) =
      .scalar (Char.ofNat (value * 64 + (b.toNat - 128))) :: decode bytes := by
  rw [decodeFrom, step, if_pos h]
  rfl

/-- Any other byte adds its six bits. -/
theorem decodeFrom_next (h : low ≤ b ∧ b ≤ high) :
    decodeFrom (some ⟨value, low, high, more + 1⟩) (b :: bytes) =
      decodeFrom (some { value := value * 64 + (b.toNat - 128), more }) bytes := by
  rw [decodeFrom, step, if_pos h]
  rfl

/-- A sequence that is not malformed goes on with a byte that may come. -/
theorem exists_cons_of_malformed_not_mem (h : .malformed ∉ decodeFrom (some s) bytes) :
    ∃ b tail, bytes = b :: tail ∧ s.low ≤ b ∧ b ≤ s.high := by
  cases bytes with
  | nil => exact absurd List.mem_cons_self h
  | cons b tail =>
    by_cases hb : s.low ≤ b ∧ b ≤ s.high
    · exact ⟨b, tail, rfl, hb⟩
    · rw [decodeFrom, step, if_neg hb] at h
      exact absurd (List.mem_append_left _ List.mem_cons_self) h

/-- Six bits more of a number. -/
theorem div_pow_eq (v more : Nat) :
    v / 64 ^ more = v / 64 ^ (more + 1) * 64 + v / 64 ^ more % 64 := by
  have hdiv : v / 64 ^ (more + 1) = v / 64 ^ more / 64 := by
    rw [Nat.div_div_eq_div_mul, pow_succ]
  rw [hdiv]
  omega

theorem toNat_ofNat_bits (n : Nat) : (UInt8.ofNat (n % 64 + 128)).toNat = n % 64 + 128 := by
  rw [UInt8.toNat_ofNat']
  omega

/-- The next byte of a number that the sequence begins may come. -/
theorem Sequence.Begins.le (h : s.Begins v) :
    s.low ≤ UInt8.ofNat (v / 64 ^ s.more % 64 + 128) ∧
      UInt8.ofNat (v / 64 ^ s.more % 64 + 128) ≤ s.high := by
  rw [UInt8.le_iff_toNat_le, UInt8.le_iff_toNat_le, toNat_ofNat_bits]
  exact ⟨h.low, h.high⟩

/-- The other bytes of a number that the sequence begins give its character. -/
theorem decodeFrom_continuation (h : s.Begins v) (rest : List UInt8) :
    decodeFrom (some s) (continuation v s.more ++ rest) = .scalar (Char.ofNat v) :: decode rest := by
  obtain ⟨value, low, high, more⟩ := s
  have hbits := div_pow_eq v more
  have hvalue : v / 64 ^ (more + 1) = value := h.value
  -- With every byte the bits that were read are again the high bits of `v`, now without bounds.
  induction more generalizing value low high with
  | zero =>
    have hnumber : value * 64 + (v % 64 + 128 - 128) = v := by
      rw [pow_zero, Nat.div_one] at hbits
      omega
    have hle := h.le
    simp only [pow_zero, Nat.div_one] at hle
    rw [continuation, List.singleton_append, decodeFrom_last hle, toNat_ofNat_bits, hnumber]
  | succ more ih =>
    have hnumber : value * 64 + (v / 64 ^ (more + 1) % 64 + 128 - 128) = v / 64 ^ (more + 1) := by
      omega
    have hbegins : Sequence.Begins { value := v / 64 ^ (more + 1), more } v := by
      have hlt := Nat.mod_lt (v / 64 ^ more) (by decide : 0 < 64)
      refine ⟨rfl, Nat.le_add_left _ _, ?_⟩
      change v / 64 ^ more % 64 + 128 ≤ 191
      omega
    rw [continuation, List.cons_append, decodeFrom_next h.le, toNat_ofNat_bits, hnumber]
    exact ih _ _ _ hbegins (div_pow_eq v more) rfl

/-- A sequence that is not malformed goes on with the other bytes of a number that it begins. -/
theorem exists_continuation (hlow : 0x80 ≤ s.low) (hhigh : s.high ≤ 0xBF)
    (h : .malformed ∉ decodeFrom (some s) bytes) :
    ∃ v rest, s.Begins v ∧ bytes = continuation v s.more ++ rest := by
  obtain ⟨value, low, high, more⟩ := s
  -- The last byte settles the number; the bytes before it add that their bits are the high ones.
  induction more generalizing value low high bytes with
  | zero =>
    obtain ⟨b, bytes, rfl, hle⟩ := exists_cons_of_malformed_not_mem h
    have hmin : 128 ≤ b.toNat := UInt8.le_trans hlow hle.1
    have hmax : b.toNat ≤ 191 := UInt8.le_trans hle.2 hhigh
    have hmod : (value * 64 + (b.toNat - 128)) % 64 + 128 = b.toNat := by omega
    refine ⟨value * 64 + (b.toNat - 128), bytes, begins_iff.2 ⟨?_, ?_, ?_⟩, ?_⟩
    · rw [zero_add, pow_one]
      omega
    · rw [pow_zero, Nat.div_one, hmod]
      exact hle.1
    · rw [pow_zero, Nat.div_one, hmod]
      exact hle.2
    · rw [continuation, hmod, UInt8.ofNat_toNat, List.singleton_append]
  | succ more ih =>
    obtain ⟨b, bytes, rfl, hle⟩ := exists_cons_of_malformed_not_mem h
    have hmin : 128 ≤ b.toNat := UInt8.le_trans hlow hle.1
    have hmax : b.toNat ≤ 191 := UInt8.le_trans hle.2 hhigh
    rw [decodeFrom_next hle] at h
    obtain ⟨v, rest, hbegins, rfl⟩ := ih _ 0x80 0xBF (UInt8.le_refl _) (UInt8.le_refl _) h
    have hvalue : v / 64 ^ (more + 1) = value * 64 + (b.toNat - 128) := hbegins.value
    have hbits := div_pow_eq v (more + 1)
    have hmod : v / 64 ^ (more + 1) % 64 + 128 = b.toNat := by omega
    refine ⟨v, rest, begins_iff.2 ⟨?_, ?_, ?_⟩, ?_⟩
    · omega
    · rw [hmod]
      exact hle.1
    · rw [hmod]
      exact hle.2
    · rw [continuation, hmod, UInt8.ofNat_toNat, List.cons_append]

/-! ### First bytes -/

/-- Whether a sequence is what a first byte opens: its numbers are those of the characters whose
form has this byte in front. -/
structure Sequence.OpenedBy (s : Sequence) (b : UInt8) : Prop where
  /-- The next byte is none that begins a character. -/
  low : 0x80 ≤ s.low
  /-- The next byte is none that opens a sequence. -/
  high : s.high ≤ 0xBF
  /-- The numbers are those of characters. -/
  valid : ∀ {v : Nat}, s.Begins v → v.isValidChar
  /-- The characters are those that are written with the byte in front. -/
  begins_iff : ∀ {c : Char}, s.Begins c.toNat ↔ lead c.toNat = b.toNat
  /-- The sequence knows how many bytes are to come. -/
  encode : ∀ {c : Char}, lead c.toNat = b.toNat →
    String.utf8EncodeChar c = b :: continuation c.toNat s.more

theorem toNat_lt (c : Char) : c.toNat < 0xD800 ∨ 0xDFFF < c.toNat ∧ c.toNat < 0x110000 := c.valid

theorem exists_toNat_eq (h : v.isValidChar) : ∃ c : Char, c.toNat = v := ⟨.ofNatAux v h, rfl⟩

/-- The sequences of two bytes. -/
theorem openedBy_two (hb : 0xC2 ≤ b.toNat ∧ b.toNat ≤ 0xDF) :
    Sequence.OpenedBy { value := b.toNat - 0xC0 } b := by
  -- The bounds of the next byte say nothing here.
  have hbegins {v : Nat} : Sequence.Begins { value := b.toNat - 0xC0 } v ↔
      v / 64 = b.toNat - 0xC0 := by
    have hlt := Nat.mod_lt v (by decide : 0 < 64)
    rw [begins_iff, pow_zero, Nat.div_one, zero_add, pow_one]
    refine and_iff_left ⟨Nat.le_add_left _ _, ?_⟩
    change v % 64 + 128 ≤ 191
    omega
  refine ⟨UInt8.le_refl _, UInt8.le_refl _, fun h => ?_, fun {c} => ?_, fun {c} h => ?_⟩
  · rw [hbegins] at h
    exact .inl (by omega)
  · rw [hbegins, lead]
    split_ifs <;> omega
  · have hrange : 0x7F < c.toNat ∧ c.toNat ≤ 0x7FF := by
      have hc := toNat_lt c
      rw [lead] at h
      split_ifs at h <;> omega
    rw [utf8EncodeChar_eq, h, UInt8.ofNat_toNat, if_neg (by omega), if_pos hrange.2]

/-- The sequences of three bytes.  After 0xE0 the bounds keep out what has a shorter form, after 0xED
the surrogates. -/
theorem openedBy_three (hvalue : b.toNat = value + 0xE0) (hle : value ≤ 0xF)
    (hlow : low.toNat = if b.toNat = 0xE0 then 0xA0 else 0x80)
    (hhigh : high.toNat = if b.toNat = 0xED then 0x9F else 0xBF) :
    Sequence.OpenedBy ⟨value, low, high, 1⟩ b := by
  have hbegins {v : Nat} : Sequence.Begins ⟨value, low, high, 1⟩ v ↔
      v / 4096 = value ∧ low.toNat ≤ v / 64 % 64 + 128 ∧
        v / 64 % 64 + 128 ≤ high.toNat := by
    rw [begins_iff, pow_one]
    rfl
  refine ⟨?_, ?_, fun h => ?_, fun {c} => ?_, fun {c} h => ?_⟩
  · rw [UInt8.le_iff_toNat_le, hlow]
    split_ifs <;> decide
  · rw [UInt8.le_iff_toNat_le, hhigh]
    split_ifs <;> decide
  · -- The second byte decides whether the number is a surrogate.
    rw [hbegins, hlow, hhigh] at h
    rw [Nat.isValidChar]
    split_ifs at h <;> omega
  · have hc := toNat_lt c
    rw [hbegins, hlow, hhigh, lead]
    split_ifs <;> omega
  · have hrange : 0x7FF < c.toNat ∧ c.toNat ≤ 0xFFFF := by
      have hc := toNat_lt c
      rw [lead] at h
      split_ifs at h <;> omega
    rw [utf8EncodeChar_eq, h, UInt8.ofNat_toNat, if_neg (by omega), if_neg (by omega),
      if_pos hrange.2]

/-- The sequences of four bytes.  After 0xF0 the bounds keep out what has a shorter form, after 0xF4
what is too large. -/
theorem openedBy_four (hvalue : b.toNat = value + 0xF0) (hle : value ≤ 4)
    (hlow : low.toNat = if b.toNat = 0xF0 then 0x90 else 0x80)
    (hhigh : high.toNat = if b.toNat = 0xF4 then 0x8F else 0xBF) :
    Sequence.OpenedBy ⟨value, low, high, 2⟩ b := by
  have hbegins {v : Nat} : Sequence.Begins ⟨value, low, high, 2⟩ v ↔
      v / 262144 = value ∧ low.toNat ≤ v / 4096 % 64 + 128 ∧
        v / 4096 % 64 + 128 ≤ high.toNat := begins_iff
  refine ⟨?_, ?_, fun h => ?_, fun {c} => ?_, fun {c} h => ?_⟩
  · rw [UInt8.le_iff_toNat_le, hlow]
    split_ifs <;> decide
  · rw [UInt8.le_iff_toNat_le, hhigh]
    split_ifs <;> decide
  · rw [hbegins, hlow, hhigh] at h
    rw [Nat.isValidChar]
    split_ifs at h <;> omega
  · have hc := toNat_lt c
    rw [hbegins, hlow, hhigh, lead]
    split_ifs <;> omega
  · have hrange : 0xFFFF < c.toNat := by
      rw [lead] at h
      split_ifs at h <;> omega
    rw [utf8EncodeChar_eq, h, UInt8.ofNat_toNat, if_neg (by omega), if_neg (by omega),
      if_neg (by omega)]

/-- A first byte is a character, opens a sequence, or stands in front of no character. -/
theorem first_cases (b : UInt8) :
    (b.toNat ≤ 0x7F ∧ first b = ([.scalar (Char.ofNat b.toNat)], none)) ∨
      (∃ s, first b = ([], some s) ∧ s.OpenedBy b) ∨
      first b = ([.malformed], none) ∧ ∀ c : Char, lead c.toNat ≠ b.toNat := by
  rw [first]
  -- ASCII, two bytes, three bytes after 0xE0, 0xED and the others, four bytes after 0xF0, 0xF4 and
  -- the others, and the bytes that open nothing.
  split_ifs with h₁ h₂ h₃ h₄ h₅ h₆ h₇ h₈
  · exact .inl ⟨h₁, rfl⟩
  · exact .inr (.inl ⟨_, rfl, openedBy_two h₂⟩)
  · refine .inr (.inl ⟨_, rfl, openedBy_three (by omega) (by omega) ?_ ?_⟩)
    · exact (if_pos h₃).symm
    · exact (if_neg (by omega)).symm
  · refine .inr (.inl ⟨_, rfl, openedBy_three (by omega) (by omega) ?_ ?_⟩)
    · exact (if_neg (by omega)).symm
    · exact (if_pos h₄).symm
  · refine .inr (.inl ⟨_, rfl, openedBy_three (by omega) (by omega) ?_ ?_⟩)
    · exact (if_neg h₃).symm
    · exact (if_neg h₄).symm
  · refine .inr (.inl ⟨_, rfl, openedBy_four (by omega) (by omega) ?_ ?_⟩)
    · exact (if_pos h₆).symm
    · exact (if_neg (by omega)).symm
  · refine .inr (.inl ⟨_, rfl, openedBy_four (by omega) (by omega) ?_ ?_⟩)
    · exact (if_neg (by omega)).symm
    · exact (if_pos h₇).symm
  · refine .inr (.inl ⟨_, rfl, openedBy_four (by omega) (by omega) ?_ ?_⟩)
    · exact (if_neg h₆).symm
    · exact (if_neg h₇).symm
  · refine .inr (.inr ⟨rfl, fun c hlead => ?_⟩)
    have hc := toNat_lt c
    rw [lead] at hlead
    split_ifs at hlead <;> omega

/-! ### Texts -/

theorem decode_cons (b : UInt8) (bytes : List UInt8) :
    decode (b :: bytes) = (first b).1 ++ decodeFrom (first b).2 bytes := rfl

/-- The form of a character is read as that character, whatever follows it. -/
theorem decode_utf8EncodeChar_append (c : Char) (bytes : List UInt8) :
    decode (String.utf8EncodeChar c ++ bytes) = .scalar c :: decode bytes := by
  have hb : (UInt8.ofNat (lead c.toNat)).toNat = lead c.toNat := by
    have hc := toNat_lt c
    rw [UInt8.toNat_ofNat', lead]
    split_ifs <;> omega
  -- The first byte is ASCII, opens the sequence, or would be in front of no character.
  rcases first_cases (UInt8.ofNat (lead c.toNat)) with ⟨hle, hfirst⟩ | ⟨s, hfirst, hs⟩ | ⟨-, hne⟩
  · have hascii : lead c.toNat = c.toNat ∧ c.toNat ≤ 0x7F := by
      rw [hb, lead] at hle
      rw [lead]
      split_ifs at hle ⊢ <;> omega
    rw [hb, hascii.1, Char.ofNat_toNat] at hfirst
    rw [utf8EncodeChar_eq, if_pos hascii.2, hascii.1, List.singleton_append, decode_cons, hfirst]
    rfl
  · rw [hs.encode hb.symm, List.cons_append, decode_cons, hfirst,
      decodeFrom_continuation (hs.begins_iff.2 hb.symm), Char.ofNat_toNat]
    rfl
  · exact absurd hb.symm (hne c)

/-- The form of a text is read as the text. -/
theorem decode_flatMap_utf8EncodeChar (cs : List Char) :
    decode (cs.flatMap String.utf8EncodeChar) = cs.map .scalar := by
  induction cs with
  | nil => rfl
  | cons c cs ih => rw [List.flatMap_cons, decode_utf8EncodeChar_append, ih, List.map_cons]

/-- Bytes that do not begin with a malformed sequence begin with the form of a character. -/
theorem exists_eq_utf8EncodeChar_append (h : .malformed ∉ decode (b :: bytes)) :
    ∃ c rest, b :: bytes = String.utf8EncodeChar c ++ rest := by
  rcases first_cases b with ⟨hle, -⟩ | ⟨s, hfirst, hs⟩ | ⟨hfirst, -⟩
  · obtain ⟨c, hc⟩ := exists_toNat_eq (v := b.toNat) (.inl (by omega))
    refine ⟨c, bytes, ?_⟩
    rw [utf8EncodeChar_eq, hc, if_pos hle, lead, if_pos hle, UInt8.ofNat_toNat,
      List.singleton_append]
  · rw [decode_cons, hfirst] at h
    -- A sequence that goes on to its end is the form of a number, and this is a character.
    obtain ⟨v, rest, hbegins, rfl⟩ := exists_continuation hs.low hs.high h
    obtain ⟨c, rfl⟩ := exists_toNat_eq (hs.valid hbegins)
    exact ⟨c, rest, by rw [hs.encode (hs.begins_iff.1 hbegins), List.cons_append]⟩
  · rw [decode_cons, hfirst] at h
    exact absurd List.mem_cons_self h

/-- Bytes without a malformed sequence are the form of a text. -/
theorem exists_eq_flatMap_utf8EncodeChar (h : .malformed ∉ decode bytes) :
    ∃ cs : List Char, bytes = cs.flatMap String.utf8EncodeChar := by
  -- A character takes up to four bytes, so the induction is on the number of bytes.
  induction hlength : bytes.length using Nat.strong_induction_on generalizing bytes with
  | _ length ih =>
    cases bytes with
    | nil => exact ⟨[], rfl⟩
    | cons b bytes =>
      obtain ⟨c, rest, heq⟩ := exists_eq_utf8EncodeChar_append h
      have hshorter : rest.length < length := by
        rw [← hlength, heq, List.length_append, utf8EncodeChar_eq, List.length_cons]
        omega
      rw [heq, decode_utf8EncodeChar_append] at h
      obtain ⟨cs, hcs⟩ := ih rest.length hshorter (fun hmem => h (List.mem_cons_of_mem _ hmem)) rfl
      exact ⟨c :: cs, by rw [heq, hcs, List.flatMap_cons]⟩

theorem text_map_scalar (cs : List Char) : Piece.text (cs.map .scalar) = String.ofList cs := by
  rw [Piece.text, List.map_map]
  exact congrArg String.ofList (List.map_id cs)

/-- **The text of bytes is the one that they are the UTF-8 form of.** -/
theorem text?_eq_some_iff {text : String} :
    text? bytes = some text ↔ text.toByteArray = bytes.toByteArray := by
  rw [← String.utf8Encode_toList, List.utf8Encode, List.toByteArray_inj, text?]
  constructor
  · intro h
    split_ifs at h with hmalformed
    rw [List.contains_iff_mem] at hmalformed
    obtain ⟨cs, rfl⟩ := exists_eq_flatMap_utf8EncodeChar hmalformed
    rw [decode_flatMap_utf8EncodeChar, text_map_scalar] at h
    rw [← Option.some.inj h, String.toList_ofList]
  · rintro rfl
    have hformed : .malformed ∉ text.toList.map Piece.scalar := by
      rw [List.mem_map]
      rintro ⟨c, -, hc⟩
      cases hc
    rw [decode_flatMap_utf8EncodeChar, text_map_scalar, String.ofList_toList]
    exact if_neg (by rwa [List.contains_iff_mem])

/-- Bytes have a text exactly if they are valid UTF-8. -/
theorem isSome_text?_iff : (text? bytes).isSome = true ↔ bytes.toByteArray.IsValidUTF8 := by
  rw [Option.isSome_iff_exists]
  constructor
  · rintro ⟨text, h⟩
    rw [← text?_eq_some_iff.1 h]
    exact text.isValidUTF8
  · intro h
    exact ⟨.ofByteArray _ h, text?_eq_some_iff.2 rfl⟩

/-- A sequence is malformed exactly if the bytes are not valid UTF-8. -/
theorem malformed_mem_decode_iff :
    .malformed ∈ decode bytes ↔ ¬ bytes.toByteArray.IsValidUTF8 := by
  rw [← isSome_text?_iff, text?]
  split_ifs with h
  · exact iff_of_true (List.contains_iff_mem.1 h) Bool.false_ne_true
  · exact iff_of_false (fun hmem => h (List.contains_iff_mem.2 hmem)) (not_not_intro rfl)

/-- What is read from valid UTF-8 is written as it was. -/
theorem toByteArray_text_decode (h : .malformed ∉ decode bytes) :
    (Piece.text (decode bytes)).toByteArray = bytes.toByteArray :=
  text?_eq_some_iff.1 (if_neg (by rwa [List.contains_iff_mem]))

end TexGlyph.Utf8
