/-!
# Blank characters

`isBlank` is the Unicode property `White_Space`.  It decides what trimming removes and where a
text is cut into words, everywhere in the library: in definition files, in decomposition
mappings and in the labels of encodings.

All functions work on lists of characters, so that their laws are inductions on the list.
-/

namespace TexGlyph

/-- The Unicode property `White_Space`: 25 characters, among them the no-break space and the
two line separators. -/
def isBlank (c : Char) : Bool :=
  let n := c.toNat
  (0x09 ≤ n && n ≤ 0x0D) || n == 0x20 || n == 0x85 || n == 0xA0 || n == 0x1680 ||
    (0x2000 ≤ n && n ≤ 0x200A) || n == 0x2028 || n == 0x2029 || n == 0x202F || n == 0x205F ||
    n == 0x3000

/-- The only blank among the printable characters of ASCII is the first one. -/
theorem isBlank_eq_false_of_ascii {c : Char} (h : 33 ≤ c.toNat ∧ c.toNat ≤ 126) :
    isBlank c = false := by
  simp only [isBlank, Bool.or_eq_false_iff, Bool.and_eq_false_iff, decide_eq_false_iff_not,
    beq_eq_false_iff_ne]
  omega

/-- Removes the blanks in front. -/
def trimStart (cs : List Char) : List Char := cs.dropWhile isBlank

/-- Removes the blanks at the end. -/
def trimEnd (cs : List Char) : List Char := (cs.reverse.dropWhile isBlank).reverse

/-- Removes the blanks at both ends. -/
def trim (cs : List Char) : List Char := trimEnd (trimStart cs)

/-- Blanks in front of a text that does not begin with one are what is removed. -/
theorem trimStart_append_of_blank {gap cs : List Char} (hgap : ∀ c ∈ gap, isBlank c = true)
    (hcs : ∀ c ∈ cs.head?, isBlank c = false) : trimStart (gap ++ cs) = cs := by
  rw [trimStart, List.dropWhile_append_of_pos hgap]
  cases cs with
  | nil => rfl
  | cons c cs => exact List.dropWhile_cons_of_neg (by simp [hcs c rfl])

/-- Blanks after a text that does not end with one are what is removed. -/
theorem trimEnd_append_of_blank {gap cs : List Char} (hgap : ∀ c ∈ gap, isBlank c = true)
    (hcs : ∀ c ∈ cs.getLast?, isBlank c = false) : trimEnd (cs ++ gap) = cs := by
  have hreverse : trimStart (gap.reverse ++ cs.reverse) = cs.reverse :=
    trimStart_append_of_blank (fun c hc => hgap c (List.mem_reverse.1 hc))
      (by rwa [List.head?_reverse])
  rw [trimEnd, List.reverse_append, ← trimStart, hreverse, List.reverse_reverse]

/-- Trimming removes the blanks around a text that neither begins nor ends with one. -/
theorem trim_padded {left cs right : List Char} (hleft : ∀ c ∈ left, isBlank c = true)
    (hright : ∀ c ∈ right, isBlank c = true) (hhead : ∀ c ∈ cs.head?, isBlank c = false)
    (hlast : ∀ c ∈ cs.getLast?, isBlank c = false) : trim (left ++ cs ++ right) = cs := by
  cases cs with
  | nil =>
    -- Nothing stands between the blanks, so all of them are in front.
    have hall : trimStart (left ++ right ++ []) = [] :=
      trimStart_append_of_blank (fun c hc => (List.mem_append.1 hc).elim (hleft c) (hright c))
        hhead
    rw [List.append_nil] at hall
    rw [List.append_nil, trim, hall]
    rfl
  | cons c cs =>
    have hstart : trimStart (left ++ (c :: cs ++ right)) = c :: cs ++ right :=
      trimStart_append_of_blank hleft hhead
    rw [trim, List.append_assoc, hstart, trimEnd_append_of_blank hright hlast]

theorem length_dropWhile_le {α : Type} (p : α → Bool) (l : List α) :
    (l.dropWhile p).length ≤ l.length :=
  (List.dropWhile_sublist p).length_le

/-- The maximal runs of characters that are not blank, in order. -/
def words (cs : List Char) : List (List Char) :=
  match _h : trimStart cs with
  | [] => []
  | c :: rest =>
    (c :: rest.takeWhile (!isBlank ·)) :: words (rest.dropWhile (!isBlank ·))
termination_by cs.length
decreasing_by
  have h₁ := length_dropWhile_le isBlank cs
  have h₂ := length_dropWhile_le (!isBlank ·) rest
  rw [trimStart] at _h
  rw [_h, List.length_cons] at h₁
  omega

/-- Cuts a text at every occurrence of `sep`; there is one piece more than there are cuts. -/
def cutAt (sep : Char) : List Char → List (List Char)
  | [] => [[]]
  | c :: cs =>
    if c = sep then [] :: cutAt sep cs
    else match cutAt sep cs with
      | [] => [[c]]
      | piece :: pieces => (c :: piece) :: pieces

/-- The pieces are those of the library's `splitOn`. -/
theorem cutAt_eq_splitOn (sep : Char) (cs : List Char) : cutAt sep cs = cs.splitOn sep := by
  induction cs with
  | nil => exact (List.splitOn_nil sep).symm
  | cons c cs ih =>
    rw [cutAt, List.splitOn_cons_eq_if_modifyHead, ih]
    simp only [beq_iff_eq]
    split
    · rfl
    · cases hpieces : cs.splitOn sep with
      | nil => exact absurd hpieces (List.splitOn_ne_nil sep cs)
      | cons piece pieces => rfl

/-- Cutting a text removes the separators and invents no character. -/
theorem mem_of_mem_cutAt {sep x : Char} {cs piece : List Char} (hp : piece ∈ cutAt sep cs)
    (hx : x ∈ piece) : x ∈ cs ∧ x ≠ sep := by
  induction cs generalizing piece with
  | nil =>
    rw [cutAt, List.mem_singleton] at hp
    rw [hp] at hx
    cases hx
  | cons c cs ih =>
    rw [cutAt] at hp
    split at hp
    · rcases List.mem_cons.1 hp with rfl | hp
      · cases hx
      · exact ⟨List.mem_cons_of_mem c (ih hp hx).1, (ih hp hx).2⟩
    · rename_i hne
      split at hp
      · rw [List.mem_singleton] at hp
        rw [hp, List.mem_singleton] at hx
        rw [hx]
        exact ⟨List.mem_cons_self, hne⟩
      · rename_i first rest hcut
        rcases List.mem_cons.1 hp with rfl | hp
        · rcases List.mem_cons.1 hx with rfl | hx
          · exact ⟨List.mem_cons_self, hne⟩
          · have hin := ih (hcut ▸ List.mem_cons_self) hx
            exact ⟨List.mem_cons_of_mem c hin.1, hin.2⟩
        · have hin := ih (hcut ▸ List.mem_cons_of_mem first hp) hx
          exact ⟨List.mem_cons_of_mem c hin.1, hin.2⟩

/-- Cutting a text loses no character but the separators. -/
theorem exists_mem_cutAt {sep x : Char} {cs : List Char} (h : x ∈ cs) (hne : x ≠ sep) :
    ∃ piece ∈ cutAt sep cs, x ∈ piece := by
  induction cs with
  | nil => cases h
  | cons c cs ih =>
    rw [cutAt]
    rcases List.mem_cons.1 h with rfl | h
    · rw [if_neg hne]
      split
      · exact ⟨[x], List.mem_cons_self, List.mem_cons_self⟩
      · exact ⟨_, List.mem_cons_self, List.mem_cons_self⟩
    · obtain ⟨piece, hpiece, hx⟩ := ih h
      split
      · exact ⟨piece, List.mem_cons_of_mem [] hpiece, hx⟩
      · cases hcut : cutAt sep cs with
        | nil =>
          rw [hcut] at hpiece
          cases hpiece
        | cons first rest =>
          rw [hcut] at hpiece
          rcases List.mem_cons.1 hpiece with rfl | hpiece
          · exact ⟨c :: piece, List.mem_cons_self, List.mem_cons_of_mem c hx⟩
          · exact ⟨piece, List.mem_cons_of_mem _ hpiece, hx⟩

end TexGlyph
