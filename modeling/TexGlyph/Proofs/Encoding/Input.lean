import TexGlyph.Encoding.Basic
import TexGlyph.Proofs.Encoding.Utf8
import TexGlyph.Text.Part

/-!
# Input with and without a byte-order mark

A byte-order mark decides how input is read, whatever was asked for
(`InputEncoding.used_of_isMarked`), and without one detection takes what is valid UTF-8 and reads it
as such (`InputEncoding.decode_auto_of_not_isMarked`).  Detection therefore agrees with the fixed
encodings wherever it gives an answer (`InputEncoding.auto_agrees`).

What was malformed and is replaced is reported by a fixed encoding.  Detection does not look for it
after a mark, so a warning is missing there, and nowhere else (`InputEncoding.warns_iff`).
-/

namespace TexGlyph

/-! ### Byte-order marks -/

namespace Encoding

/-- The byte-order marks, with the encodings that they announce. -/
def marks : List (Encoding × List UInt8) :=
  [(utf8, [0xEF, 0xBB, 0xBF]), (utf16le, [0xFF, 0xFE]), (utf16be, [0xFE, 0xFF])]

/-- Whether bytes begin with a byte-order mark. -/
def IsMarked (bytes : List UInt8) : Prop := ∃ mark ∈ marks.map (·.2), mark <+: bytes

/-- A mark is found in front of the bytes, and what is left is what follows it. -/
theorem marked?_eq_some_iff {e : Encoding} {bytes rest : List UInt8} :
    marked? bytes = some (e, rest) ↔ ∃ mark, (e, mark) ∈ marks ∧ bytes = mark ++ rest := by
  simp only [marks, List.mem_cons, Prod.mk.injEq, List.not_mem_nil, or_false]
  constructor
  · intro h
    unfold marked? at h
    split at h
    · obtain ⟨rfl, rfl⟩ := Prod.mk.inj (Option.some.inj h)
      exact ⟨_, .inl ⟨rfl, rfl⟩, rfl⟩
    · obtain ⟨rfl, rfl⟩ := Prod.mk.inj (Option.some.inj h)
      exact ⟨_, .inr (.inl ⟨rfl, rfl⟩), rfl⟩
    · obtain ⟨rfl, rfl⟩ := Prod.mk.inj (Option.some.inj h)
      exact ⟨_, .inr (.inr ⟨rfl, rfl⟩), rfl⟩
    · cases h
  · rintro ⟨mark, ⟨rfl, rfl⟩ | ⟨rfl, rfl⟩ | ⟨rfl, rfl⟩, rfl⟩ <;> rfl

theorem isMarked_iff {bytes : List UInt8} :
    IsMarked bytes ↔ ∃ e rest, marked? bytes = some (e, rest) := by
  constructor
  · rintro ⟨mark, hmark, rest, rfl⟩
    obtain ⟨⟨e, _⟩, hmem, rfl⟩ := List.mem_map.1 hmark
    exact ⟨e, rest, marked?_eq_some_iff.2 ⟨_, hmem, rfl⟩⟩
  · rintro ⟨e, rest, h⟩
    obtain ⟨mark, hmem, rfl⟩ := marked?_eq_some_iff.1 h
    exact ⟨mark, List.mem_map_of_mem hmem, rest, rfl⟩

theorem not_isMarked_iff {bytes : List UInt8} : ¬ IsMarked bytes ↔ marked? bytes = none := by
  rw [isMarked_iff, Option.eq_none_iff_forall_ne_some, Prod.forall]
  simp only [not_exists, ne_eq]

end Encoding

/-! ### Reading -/

namespace InputEncoding

open Encoding (marked? IsMarked)

variable {choice : InputEncoding} {bytes rest : List UInt8} {e : Encoding} {input : DecodedInput}

/-- The encoding of input without a mark. -/
def unmarked : InputEncoding → Encoding
  | auto => .utf8
  | fixed e => e

/-- The encoding that input is read in, and the bytes that are read. -/
def used (choice : InputEncoding) (bytes : List UInt8) : Encoding × List UInt8 :=
  (marked? bytes).getD (choice.unmarked, bytes)

/-- What input is read as. -/
def pieces (choice : InputEncoding) (bytes : List UInt8) : List Piece :=
  (choice.used bytes).1.decode (choice.used bytes).2

/-- After a mark it does not matter what was asked for. -/
theorem used_of_isMarked (h : IsMarked bytes) (choice choice' : InputEncoding) :
    choice.used bytes = choice'.used bytes := by
  obtain ⟨e, rest, h⟩ := Encoding.isMarked_iff.1 h
  rw [used, used, h, Option.getD_some, Option.getD_some]

theorem used_of_not_isMarked (h : ¬ IsMarked bytes) (choice : InputEncoding) :
    choice.used bytes = (choice.unmarked, bytes) := by
  rw [used, Encoding.not_isMarked_iff.1 h, Option.getD_none]

/-- A fixed encoding always gives a text, and says so if sequences were replaced. -/
theorem decode_fixed (e : Encoding) (bytes : List UInt8) :
    (fixed e).decode bytes =
      .ok ⟨Piece.text ((fixed e).pieces bytes),
        if .malformed ∈ (fixed e).pieces bytes then [.replaced ((fixed e).used bytes).1.name]
        else []⟩ := by
  simp only [← List.contains_iff_mem]
  rfl

/-- After a mark, detection always gives a text. -/
theorem decode_auto_of_isMarked (h : IsMarked bytes) :
    auto.decode bytes =
      .ok ⟨Piece.text (auto.pieces bytes), [.detected (auto.used bytes).1.name]⟩ := by
  obtain ⟨e, rest, h⟩ := Encoding.isMarked_iff.1 h
  simp only [decode, pieces, used, h, Option.getD_some]

/-- Without a mark, detection takes what is valid UTF-8. -/
theorem decode_auto_of_not_isMarked (h : ¬ IsMarked bytes) :
    auto.decode bytes =
      if .malformed ∈ auto.pieces bytes then .error .undetected
      else .ok ⟨Piece.text (auto.pieces bytes), []⟩ := by
  have hpieces : auto.pieces bytes = Utf8.decode bytes := by
    rw [pieces, used_of_not_isMarked h]
    rfl
  simp only [decode, Encoding.not_isMarked_iff.1 h, Utf8.text?, hpieces, List.contains_iff_mem]
  split_ifs <;> rfl

/-- **Detection agrees with the encodings that it detects.**  It fails exactly if there is neither a
byte-order mark nor valid UTF-8.  A text that it gives is the one that UTF-8 gives where nothing is
asked for, and after a mark the one that any encoding gives; without a mark, the bytes are the UTF-8
form of the text. -/
theorem auto_agrees (bytes : List UInt8) :
    (∀ fault, auto.decode bytes = .error fault ↔
      fault = .undetected ∧ ¬ IsMarked bytes ∧ ¬ bytes.toByteArray.IsValidUTF8) ∧
    ∀ input, auto.decode bytes = .ok input →
      (usual.decode bytes).map (·.text) = .ok input.text ∧
      (IsMarked bytes → ∀ e, ((fixed e).decode bytes).map (·.text) = .ok input.text) ∧
      (¬ IsMarked bytes → input.text.toByteArray = bytes.toByteArray) := by
  have hfixed (e : Encoding) : ((fixed e).decode bytes).map (·.text) =
      .ok (Piece.text ((fixed e).pieces bytes)) := by
    rw [decode_fixed]
    rfl
  by_cases hmark : IsMarked bytes
  · -- Every choice reads what follows the mark in its encoding, and detection does not fail.
    have hpieces (e : Encoding) : (fixed e).pieces bytes = auto.pieces bytes := by
      rw [pieces, pieces, used_of_isMarked hmark (fixed e) auto]
    rw [decode_auto_of_isMarked hmark]
    refine ⟨fun fault => ⟨fun h => ?_, fun h => absurd hmark h.2.1⟩, fun input h => ?_⟩
    · cases h
    · cases h
      exact ⟨by rw [usual, hfixed, hpieces], fun _ e => by rw [hfixed, hpieces],
        fun hnot => absurd hmark hnot⟩
  · -- Detection and the usual encoding read all bytes as UTF-8, and only detection may refuse them.
    have hpieces : auto.pieces bytes = Utf8.decode bytes := by
      rw [pieces, used_of_not_isMarked hmark]
      rfl
    have husual : (fixed .utf8).pieces bytes = Utf8.decode bytes := by
      rw [pieces, used_of_not_isMarked hmark]
      rfl
    rw [decode_auto_of_not_isMarked hmark, hpieces, ← Utf8.malformed_mem_decode_iff]
    split_ifs with hmalformed
    · refine ⟨fun fault => ⟨fun h => ?_, fun h => ?_⟩, fun input h => ?_⟩
      · cases h
        exact ⟨rfl, hmark, hmalformed⟩
      · rw [h.1]
      · cases h
    · refine ⟨fun fault => ⟨fun h => ?_, fun h => absurd h.2.2 hmalformed⟩, fun input h => ?_⟩
      · cases h
      · cases h
        refine ⟨by rw [usual, hfixed, husual], fun hnot => absurd hnot hmark, fun _ => ?_⟩
        exact Utf8.toByteArray_text_decode hmalformed

/-- Two marks and half a unit: the second mark stays in the text and the half is replaced, whatever
was asked for. -/
theorem auto_agrees_marked_twice :
    IsMarked [0xFF, 0xFE, 0xFF, 0xFE, 0x41] ∧
      auto.decode [0xFF, 0xFE, 0xFF, 0xFE, 0x41] = .ok ⟨"\uFEFF\uFFFD", [.detected "UTF-16LE"]⟩ ∧
      ((fixed .windows1252).decode [0xFF, 0xFE, 0xFF, 0xFE, 0x41]).map (·.text) =
        .ok "\uFEFF\uFFFD" := by
  have hmark : IsMarked [0xFF, 0xFE, 0xFF, 0xFE, 0x41] := ⟨[0xFF, 0xFE], by decide, by decide⟩
  have hauto : auto.decode [0xFF, 0xFE, 0xFF, 0xFE, 0x41] =
      .ok ⟨"\uFEFF\uFFFD", [.detected "UTF-16LE"]⟩ := by decide +kernel
  exact ⟨hmark, hauto, ((auto_agrees _).2 _ hauto).2.1 hmark .windows1252⟩

/-! ### Warnings -/

/-- Whether an entry of a log warns that sequences of the input were replaced. -/
def WarnsOfReplacement (entry : LogEntry) : Prop :=
  entry.severity = .warn ∧ occursIn "invalid sequences were replaced" entry.text

/-- The remark on a replacement is such a warning, and no other remark is one. -/
theorem warnsOfReplacement_entry_iff {note : InputNote} :
    WarnsOfReplacement note.entry ↔ ∃ encoding, note = .replaced encoding := by
  cases note with
  | detected encoding =>
    constructor
    · rintro ⟨hseverity, -⟩
      cases hseverity
    · rintro ⟨_, h⟩
      cases h
  | replaced encoding =>
    refine iff_of_true ⟨rfl, occursIn_iff.2 ?_⟩ ⟨encoding, rfl⟩
    simp only [InputNote.entry, String.toList_append]
    refine ⟨"input is not valid ".toList ++ encoding.toList ++ "; ".toList, [], ?_⟩
    rw [List.append_nil, List.append_assoc _ "; ".toList]
    rfl

/-- The text of input is what it is read as, and the remarks tell of a replacement if there was one,
unless the encoding was detected by a mark. -/
theorem of_decode_eq_ok (h : choice.decode bytes = .ok input) :
    input.text = Piece.text (choice.pieces bytes) ∧
      ((∃ encoding, .replaced encoding ∈ input.notes) ↔
        .malformed ∈ choice.pieces bytes ∧ ¬ (choice = auto ∧ IsMarked bytes)) := by
  cases choice with
  | fixed e =>
    rw [decode_fixed] at h
    cases h
    refine ⟨rfl, ?_⟩
    split_ifs with hmalformed <;> simp [hmalformed]
  | auto =>
    -- After a mark the remark is on the detection, and without one nothing was replaced.
    by_cases hmark : IsMarked bytes
    · rw [decode_auto_of_isMarked hmark] at h
      cases h
      exact ⟨rfl, by simp [hmark]⟩
    · rw [decode_auto_of_not_isMarked hmark] at h
      split_ifs at h with hmalformed
      cases h
      exact ⟨rfl, by simp [hmalformed]⟩

/-- **What is replaced in the input is reported**, and nothing else is, in every encoding: the log warns
of replaced sequences exactly if there were any, unless detection found a byte-order mark. -/
theorem warns_iff (h : choice.decode bytes = .ok input) :
    input.text = Piece.text (choice.pieces bytes) ∧
      ((∃ entry ∈ input.notes.map (·.entry), WarnsOfReplacement entry) ↔
        .malformed ∈ choice.pieces bytes ∧ ¬ (choice = auto ∧ IsMarked bytes)) := by
  obtain ⟨htext, hnotes⟩ := of_decode_eq_ok h
  refine ⟨htext, Iff.trans ?_ hnotes⟩
  constructor
  · rintro ⟨entry, hentry, hwarns⟩
    obtain ⟨note, hnote, rfl⟩ := List.mem_map.1 hentry
    obtain ⟨encoding, rfl⟩ := warnsOfReplacement_entry_iff.1 hwarns
    exact ⟨encoding, hnote⟩
  · rintro ⟨encoding, hnote⟩
    exact ⟨_, List.mem_map_of_mem hnote, warnsOfReplacement_entry_iff.2 ⟨encoding, rfl⟩⟩

/-- A mark overrides the encoding that was asked for, and half a unit is replaced and reported. -/
theorem warns_iff_overridden :
    (fixed .windows1252).decode [0xFE, 0xFF, 0x00, 0x41, 0x00] =
        .ok ⟨"A\uFFFD", [.replaced "UTF-16BE"]⟩ ∧
      .malformed ∈ (fixed .windows1252).pieces [0xFE, 0xFF, 0x00, 0x41, 0x00] ∧
      ∃ entry ∈ ([.replaced "UTF-16BE"] : List InputNote).map (·.entry),
        WarnsOfReplacement entry := by
  have hdecode : (fixed .windows1252).decode [0xFE, 0xFF, 0x00, 0x41, 0x00] =
      .ok ⟨"A\uFFFD", [.replaced "UTF-16BE"]⟩ := by decide +kernel
  have hmalformed : .malformed ∈ (fixed .windows1252).pieces [0xFE, 0xFF, 0x00, 0x41, 0x00] := by
    decide +kernel
  exact ⟨hdecode, hmalformed, (warns_iff hdecode).2.2 ⟨hmalformed, fun h => by cases h.1⟩⟩

/-- Detection replaces a malformed sequence after a mark and says nothing about it; asked for the
encoding of the mark, the same bytes give the same text with a warning. -/
theorem not_warns_detected :
    auto.decode [0xEF, 0xBB, 0xBF, 0xFF] = .ok ⟨"\uFFFD", [.detected "UTF-8"]⟩ ∧
      .malformed ∈ auto.pieces [0xEF, 0xBB, 0xBF, 0xFF] ∧
      (¬ ∃ entry ∈ ([.detected "UTF-8"] : List InputNote).map (·.entry),
        WarnsOfReplacement entry) ∧
      (fixed .utf8).decode [0xEF, 0xBB, 0xBF, 0xFF] = .ok ⟨"\uFFFD", [.replaced "UTF-8"]⟩ := by
  refine ⟨by decide +kernel, by decide +kernel, ?_, by decide +kernel⟩
  rintro ⟨entry, hentry, hwarns⟩
  obtain rfl := List.mem_singleton.1 hentry
  cases hwarns.1

end InputEncoding

end TexGlyph
