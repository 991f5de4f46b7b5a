import TexGlyph.Latex.Greek
import TexGlyph.Unicode.Name.Table

/-!
# What names are written with

Names consist of blanks, hyphens, digits and capital letters (`isNameCode_of_charName?`), so the
command for a Greek letter consists of hyphens, digits and letters of ASCII
(`isWordCode_of_mem_greekCommand`).

The sweep over the names looks at their bytes.  The kernel has the bytes of a text at hand, and
would have to decode them before it could look at the characters; `exists_mem_utf8EncodeChar` says
why bytes are enough.
-/

namespace TexGlyph

/-- Whether `n` is the code point of a blank, a hyphen, a digit or a capital letter. -/
def isNameCode (n : Nat) : Bool :=
  Nat.beq n 0x20 || Nat.beq n 0x2D || (Nat.ble 0x30 n && Nat.ble n 0x39) ||
    (Nat.ble 0x41 n && Nat.ble n 0x5A)

/-- Whether `n` is the code point of a hyphen, a digit or a letter. -/
def isWordCode (n : Nat) : Bool :=
  Nat.beq n 0x2D || (Nat.ble 0x30 n && Nat.ble n 0x39) || (Nat.ble 0x41 n && Nat.ble n 0x5A) ||
    (Nat.ble 0x61 n && Nat.ble n 0x7A)

theorem le_of_isNameCode {n : Nat} (h : isNameCode n = true) : n ≤ 0x5A := by
  simp only [isNameCode, Bool.or_eq_true, Bool.and_eq_true, Nat.beq_eq,
    Nat.ble_eq] at h
  omega

theorem le_of_isWordCode {n : Nat} (h : isWordCode n = true) : n ≤ 0x7A := by
  simp only [isWordCode, Bool.or_eq_true, Bool.and_eq_true, Nat.beq_eq,
    Nat.ble_eq] at h
  omega

/-! ### Bytes and characters -/

/-- The first byte of a character is its code point or lies outside ASCII. -/
theorem exists_mem_utf8EncodeChar (c : Char) :
    ∃ b ∈ String.utf8EncodeChar c, b.toNat = c.toNat ∨ 0x7F < b.toNat := by
  unfold String.utf8EncodeChar
  have hc : c.toNat = c.val.toNat := rfl
  rw [hc]
  simp only
  -- One byte is the code point itself; the first of several has its highest bit set.
  split
  · refine ⟨_, List.mem_cons_self, Or.inl ?_⟩
    rw [UInt8.toNat_ofNat']
    omega
  · split
    · refine ⟨_, List.mem_cons_self, Or.inr ?_⟩
      rw [UInt8.toNat_ofNat']
      omega
    · split
      · refine ⟨_, List.mem_cons_self, Or.inr ?_⟩
        rw [UInt8.toNat_ofNat']
        omega
      · refine ⟨_, List.mem_cons_self, Or.inr ?_⟩
        rw [UInt8.toNat_ofNat']
        omega

/-- Whether every byte of a text stands for a character that names are written with. -/
def hasNameBytes (s : String) : Bool :=
  s.toByteArray.data.toList.all fun b => isNameCode b.toNat

theorem isNameCode_of_hasNameBytes {s : String} (h : hasNameBytes s = true) {c : Char}
    (hc : c ∈ s.toList) : isNameCode c.toNat = true := by
  obtain ⟨b, hb, hcode⟩ := exists_mem_utf8EncodeChar c
  have hmem : b ∈ s.toByteArray.data.toList := by
    rw [← String.utf8Encode_toList, List.utf8Encode, List.toList_data_toByteArray]
    exact List.mem_flatMap.2 ⟨c, hc, hb⟩
  have hname := List.all_eq_true.1 h b hmem
  rcases hcode with heq | hlt
  · rw [← heq]
    exact hname
  · have hle := le_of_isNameCode hname
    omega

/-! ### Names -/

theorem all_nameRuns_hasNameBytes :
    nameRuns.all (fun run => hasNameBytes run.stem && run.endings.all hasNameBytes) = true := by
  decide +kernel

theorem all_nameRuns_foreign : nameRuns.all (fun run => Nat.ble 0x80 run.first) = true := by
  decide +kernel

/-- Names are written with blanks, hyphens, digits and capital letters. -/
theorem isNameCode_of_charName? {c x : Char} {name : String} (h : charName? c = some name)
    (hx : x ∈ name.toList) : isNameCode x.toNat = true := by
  obtain ⟨run, hrun, ending, hending, rfl, _⟩ := exists_run_of_charName? h
  have hbytes := List.all_eq_true.1 all_nameRuns_hasNameBytes run hrun
  rw [Bool.and_eq_true] at hbytes
  rw [String.toList_append] at hx
  rcases List.mem_append.1 hx with hstem | hend
  · exact isNameCode_of_hasNameBytes hbytes.1 hstem
  · exact isNameCode_of_hasNameBytes (List.all_eq_true.1 hbytes.2 ending hending) hend

/-- No name of a character of ASCII is kept. -/
theorem charName?_eq_none_of_ascii {c : Char} (h : c.toNat ≤ 0x7F) : charName? c = none := by
  rw [Option.eq_none_iff_forall_ne_some]
  intro name hname
  obtain ⟨run, hrun, _, _, _, hle, _⟩ := exists_run_of_charName? hname
  have hfirst := Nat.le_of_ble_eq_true (List.all_eq_true.1 all_nameRuns_foreign run hrun)
  omega

/-! ### Commands for Greek letters -/

theorem isWordCode_toLower {c : Char} (h : isNameCode c.toNat = true) (hne : c ≠ ' ') :
    isWordCode c.toLower.toNat = true := by
  -- Few code points are possible, and all of them are tried.
  have hall : ∀ n < 0x5B, isNameCode n = true → Char.ofNat n ≠ ' ' →
      isWordCode (Char.ofNat n).toLower.toNat = true := by decide
  have hc := hall c.toNat (Nat.lt_succ_of_le (le_of_isNameCode h)) h
  rw [Char.ofNat_toNat] at hc
  exact hc hne

theorem isWordCode_toUpper {c : Char} (h : isWordCode c.toNat = true) :
    isWordCode c.toUpper.toNat = true := by
  have hall : ∀ n < 0x7B, isWordCode n = true → isWordCode (Char.ofNat n).toUpper.toNat = true := by
    decide
  have hc := hall c.toNat (Nat.lt_succ_of_le (le_of_isWordCode h)) h
  rwa [Char.ofNat_toNat] at hc

/-- The last word of a name, in lower case, is written with hyphens, digits and letters. -/
theorem isWordCode_of_mem_lastWord {c x : Char} {name : String} (h : charName? c = some name)
    (hx : x ∈ ((cutAt ' ' name.toList).getLast?.getD []).map Char.toLower) :
    isWordCode x.toNat = true := by
  obtain ⟨y, hy, rfl⟩ := List.mem_map.1 hx
  cases hlast : (cutAt ' ' name.toList).getLast? with
  | none =>
    rw [hlast] at hy
    cases hy
  | some word =>
    rw [hlast, Option.getD_some] at hy
    obtain ⟨hmem, hne⟩ := mem_of_mem_cutAt (List.mem_of_getLast? hlast) hy
    exact isWordCode_toLower (isNameCode_of_charName? h hmem) hne

/-- The command for a Greek letter is written with hyphens, digits and letters. -/
theorem isWordCode_of_mem_greekCommand {c x : Char} {name : String} (h : charName? c = some name)
    (hx : x ∈ (greekCommand name).toList) : isWordCode x.toNat = true := by
  have hlambda : "lambda".toList.all (fun y => isWordCode y.toNat) = true := by decide
  have hlast := fun y => isWordCode_of_mem_lastWord (x := y) h
  unfold greekCommand at hx
  -- The word is made opaque here, or `split` would look for the `if` inside it again.
  generalize ((cutAt ' ' name.toList).getLast?.getD []).map Char.toLower = word at hlast hx
  have hword : ∀ y ∈ (if word = "lamda".toList then "lambda".toList else word),
      isWordCode y.toNat = true := by
    split
    · exact List.all_eq_true.1 hlambda
    · exact hlast
  simp only at hx
  generalize (if word = "lamda".toList then "lambda".toList else word) = spelled at hword hx
  split at hx
  · rw [String.toList_ofList] at hx
    exact hword x hx
  · split at hx
    · exact absurd hx (by simp)
    · rename_i first rest
      rw [String.toList_ofList] at hx
      rcases List.mem_cons.1 hx with rfl | hx
      · exact isWordCode_toUpper (hword first List.mem_cons_self)
      · exact hword x (List.mem_cons_of_mem first hx)

end TexGlyph
