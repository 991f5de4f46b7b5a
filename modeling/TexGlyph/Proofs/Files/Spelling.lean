import Mathlib.Data.List.Basic
import TexGlyph.Files.System

/-!
# Spellings of a path

A path can be spelled with more slashes and with components `.` that do not count, and paths are
compared without them.  The system does not compare paths but follows them part by part.  A part
that does not count stays in its directory, so it makes no difference as long as a name comes after
it (`FileTree.foldlM_follow_filter`).  Two spellings of a path that ends in a name therefore lead to
the same place, unless one of them is too long to be followed (`FileTree.ignoresSpelling`).
-/

namespace TexGlyph

/-! ### Parts and components -/

namespace Path

/-- The parts of a path that count. -/
def names (path : String) : List String := (parts path).filter (!isEmptyPart ·)

/-- Whether a path ends in a part that counts; one that does not asks for a directory. -/
def endsInName (path : String) : Bool := (parts path).getLast?.any (!isEmptyPart ·)

/-- A path is cut at each of its slashes. -/
theorem parts_append_slash (front back : String) :
    parts (front ++ "/" ++ back) = parts front ++ parts back := by
  have htext : (front ++ "/" ++ back).toList = front.toList ++ '/' :: back.toList := by
    rw [String.toList_append, String.toList_append, List.append_assoc]
    rfl
  simp only [parts, htext, cutAt_eq_splitOn]
  rw [List.splitOn_append_cons_self, List.map_append]

theorem isAbsolute_append {front : String} (h : front ≠ "") (back : String) :
    isAbsolute (front ++ back) = isAbsolute front := by
  have hne : front.toList ≠ [] := fun heq => h (String.toList_eq_nil_iff.1 heq)
  rw [isAbsolute, isAbsolute, String.toList_append, List.head?_append_of_ne_nil _ hne]

/-- What comes after a slash adds its parts that count. -/
theorem components_append {front : String} (h : front ≠ "") (back : String) :
    components (front ++ "/" ++ back) = components front ++ names back := by
  have habsolute : isAbsolute (front ++ "/" ++ back) = isAbsolute front := by
    rw [String.append_assoc, isAbsolute_append h]
  have hlength : 1 ≤ (parts front).length := List.length_pos_iff.2 (parts_ne_nil front)
  simp only [components, habsolute, parts_append_slash, names, List.filter_append]
  split
  · rfl
  · rw [List.take_append_of_le_length hlength, List.drop_append_of_le_length hlength,
      List.filter_append, List.append_assoc]

theorem components_slash_append (back : String) : components ("/" ++ back) = "/" :: names back := by
  have habsolute : isAbsolute ("/" ++ back) = true := isAbsolute_append (by decide) back
  have hparts : parts ("/" ++ back) = [""] ++ parts back := parts_append_slash "" back
  simp only [components, habsolute, hparts, names]
  rfl

/-- A slash at the end does not count. -/
theorem components_append_slash {path : String} (h : path ≠ "") :
    components (path ++ "/") = components path := by
  have happend := components_append h ""
  rw [String.append_empty] at happend
  exact happend.trans (List.append_nil _)

/-- A number of slashes. -/
def slashes (n : Nat) : String := String.ofList (List.replicate n '/')

theorem slashes_succ (n : Nat) : slashes (n + 1) = slashes n ++ "/" := by
  rw [slashes, List.replicate_succ', String.ofList_append]
  rfl

theorem utf8ByteSize_slashes (n : Nat) : (slashes n).utf8ByteSize = n := by
  induction n with
  | zero => rfl
  | succ n ih =>
    rw [slashes_succ, String.utf8ByteSize_append, ih]
    rfl

/-- Slashes at the end do not count. -/
theorem components_append_slashes {path : String} (h : path ≠ "") (n : Nat) :
    components (path ++ slashes n) = components path := by
  induction n with
  | zero => exact congrArg components String.append_empty
  | succ n ih =>
    rw [slashes_succ, ← String.append_assoc]
    exact (components_append_slash (by simp [h])).trans ih

/-! ### Paths in a directory -/

/-- Whether a text is the name of a file in some directory. -/
structure IsName (file : String) : Prop where
  parts : parts file = [file]
  counts : isEmptyPart file = false

namespace IsName

variable {file : String} (h : IsName file)

include h

theorem names_eq : names file = [file] := by
  rw [names, h.parts, List.filter_cons_of_pos (by rw [h.counts]; rfl), List.filter_nil]

theorem isAbsolute_eq : isAbsolute file = false := by
  rw [isAbsolute, decide_eq_false_iff_not]
  intro hslash
  have hpart : file ∈ Path.parts file := h.parts ▸ List.mem_cons_self
  exact not_mem_of_mem_parts hpart (List.mem_of_mem_head? hslash)

/-- The path of a file in a directory is the file alone, or it has a slash in front of the file. -/
theorem join_cases (directory : String) :
    directory = "" ∧ join directory file = file ∨
      ∃ front, (directory = front ++ "/" ∨ directory = front ∧ front ≠ "") ∧
        join directory file = front ++ "/" ++ file := by
  by_cases hempty : directory = ""
  · exact .inl ⟨hempty, if_pos (by simp [hempty])⟩
  · refine .inr ?_
    rw [join, if_neg (by simp [h.isAbsolute_eq, hempty])]
    split
    · obtain ⟨front, hfront⟩ := List.getLast?_eq_some_iff.1 ‹_›
      have hdirectory : directory = String.ofList front ++ "/" := by
        rw [← String.ofList_toList (s := directory), hfront, String.ofList_append]
      exact ⟨String.ofList front, .inl hdirectory, by rw [← hdirectory]⟩
    · exact ⟨directory, .inr ⟨rfl, hempty⟩, rfl⟩

theorem endsInName_join (directory : String) : endsInName (join directory file) = true := by
  rcases h.join_cases directory with ⟨-, hjoin⟩ | ⟨front, -, hjoin⟩
  · simp [endsInName, hjoin, h.parts, h.counts]
  · simp [endsInName, hjoin, parts_append_slash, h.parts, h.counts]

theorem utf8ByteSize_le_join (directory : String) :
    directory.utf8ByteSize ≤ (join directory file).utf8ByteSize := by
  rcases h.join_cases directory with ⟨rfl, -⟩ | ⟨front, rfl | ⟨rfl, -⟩, hjoin⟩
  · exact Nat.zero_le _
  · rw [hjoin, String.utf8ByteSize_append (t := file)]
    exact Nat.le_add_right _ _
  · rw [hjoin, String.append_assoc, String.utf8ByteSize_append]
    exact Nat.le_add_right _ _

/-- The components of a path in a directory are those of the directory and the file. -/
theorem components_join (directory : String) :
    components (join directory file) = components directory ++ [file] := by
  have happend : ∀ front ≠ "", components (front ++ "/" ++ file) = components front ++ [file] :=
    fun front hne => h.names_eq ▸ components_append hne file
  rcases h.join_cases directory with ⟨rfl, hjoin⟩ | ⟨front, rfl | ⟨rfl, hne⟩, hjoin⟩
  · have hne : file ≠ "" := by
      rintro rfl
      cases h.counts
    have hempty : components "" = [] := by decide
    rw [hjoin, hempty, components, h.isAbsolute_eq, h.parts]
    simp [hne]
  · by_cases hne : front = ""
    · rw [hjoin, hne]
      exact (components_slash_append file).trans (h.names_eq ▸ rfl)
    · rw [hjoin, happend front hne, components_append_slash hne]
  · rw [hjoin, happend directory hne]

end IsName

/-! ### What components say about a path -/

variable {path path' : String}

theorem isAbsolute_congr (h : components path = components path') :
    isAbsolute path = isAbsolute path' := by
  rw [Bool.eq_iff_iff, ← mem_components_iff, ← mem_components_iff, h]

theorem names_congr (h : components path = components path') : names path = names path' := by
  -- The first component is not filtered like the others, but it is a part of the path, too.
  have hfilter : ∀ path, (components path).filter (!isEmptyPart ·) =
      if isAbsolute path then "/" :: names path else names path := by
    intro path
    rw [components]
    split
    · simp only [List.filter_cons, List.filter_filter, Bool.and_self, names]
      rfl
    · have hboth : ∀ part : String, (!isEmptyPart part && decide (part ≠ "")) = !isEmptyPart part := by
        intro part
        cases hpart : isEmptyPart part <;> simp_all [isEmptyPart]
      rw [names, List.filter_append, List.filter_filter, List.filter_filter]
      simp only [hboth, Bool.and_self]
      rw [← List.filter_append, List.take_append_drop]
  have hnames := congrArg (List.filter (!isEmptyPart ·)) h
  rw [hfilter, hfilter, isAbsolute_congr h] at hnames
  split at hnames
  · exact (List.cons.inj hnames).2
  · exact hnames

/-- What is not in the parts that count of a path is a slash or a dot. -/
theorem mem_toList_iff {c : Char} (hslash : c ≠ '/') (hdot : c ≠ '.') :
    c ∈ path.toList ↔ ∃ name ∈ names path, c ∈ name.toList := by
  constructor
  · intro hc
    obtain ⟨piece, hpiece, hc⟩ := exists_mem_cutAt hc hslash
    rw [← String.toList_ofList (l := piece)] at hc
    refine ⟨String.ofList piece, List.mem_filter.2 ⟨List.mem_map_of_mem hpiece, ?_⟩, hc⟩
    cases hcounts : isEmptyPart (String.ofList piece) with
    | false => rfl
    | true =>
      rw [isEmptyPart, Bool.or_eq_true, decide_eq_true_iff, decide_eq_true_iff] at hcounts
      rcases hcounts with hempty | hempty
      · rw [hempty] at hc
        cases hc
      · rw [hempty] at hc
        exact absurd (List.mem_singleton.1 hc) hdot
  · rintro ⟨name, hname, hc⟩
    obtain ⟨piece, hpiece, rfl⟩ := List.mem_map.1 (List.mem_filter.1 hname).1
    rw [String.toList_ofList] at hc
    exact (mem_of_mem_cutAt hpiece hc).1

end Path

/-! ### Following a path -/

/-- Whether a path ends in a name and is not too long to be followed. -/
structure Path.IsFollowable (path : String) : Prop where
  ends : endsInName path = true
  size : path.utf8ByteSize ≤ FileTree.maxPathSize

/-- Whether it does not matter to files how their paths are spelled. -/
structure Files.IgnoresSpelling (files : Files) : Prop where
  isFile : ∀ {path path'}, Path.components path = Path.components path' →
    Path.IsFollowable path → Path.IsFollowable path' → files.isFile path = files.isFile path'
  read : ∀ {path path'}, Path.components path = Path.components path' →
    Path.IsFollowable path → Path.IsFollowable path' → files.read path = files.read path'

namespace FileTree

variable {tree : FileTree}

theorem foldlM_follow_of_enter_eq_error {here : Place} {fault : FileFault}
    (h : tree.enter here = .error fault) {parts : List String} (hparts : parts ≠ []) :
    parts.foldlM tree.follow here = .error fault := by
  cases parts with
  | nil => exact absurd rfl hparts
  | cons part parts =>
    rw [List.foldlM_cons, follow, h]
    rfl

/-- **Parts that do not count change nothing** for the parts after them, if there are any: they only
ask for the directory that the next part is looked up in anyway. -/
theorem foldlM_follow_filter {last : String} (hlast : Path.isEmptyPart last = false)
    (front : List String) (here : Place) :
    ((front ++ [last]).filter (!Path.isEmptyPart ·)).foldlM tree.follow here =
      (front ++ [last]).foldlM tree.follow here := by
  have hcounts : ∀ front : List String, (front ++ [last]).filter (!Path.isEmptyPart ·) ≠ [] := by
    intro front hnil
    have hmem : last ∈ (front ++ [last]).filter (!Path.isEmptyPart ·) :=
      List.mem_filter.2 ⟨List.mem_append_right _ List.mem_cons_self, by rw [hlast]; rfl⟩
    rw [hnil] at hmem
    cases hmem
  induction front generalizing here with
  | nil => simp [hlast]
  | cons part front ih =>
    rw [List.cons_append, List.foldlM_cons]
    cases hpart : Path.isEmptyPart part with
    | false =>
      rw [List.filter_cons_of_pos (by rw [hpart]; rfl), List.foldlM_cons]
      simp only [ih]
    | true =>
      rw [List.filter_cons_of_neg (by simp [hpart])]
      cases henter : tree.enter here with
      | error fault =>
        rw [foldlM_follow_of_enter_eq_error henter (hcounts front), follow, henter]
        rfl
      | ok u =>
        have hstay : tree.follow here part = .ok here := by
          rw [follow, henter]
          exact if_pos (by simpa [Path.isEmptyPart] using hpart)
        rw [hstay]
        exact ih here

theorem foldlM_follow_names {path : String} (h : Path.endsInName path = true) (here : Place) :
    (Path.names path).foldlM tree.follow here = (Path.parts path).foldlM tree.follow here := by
  obtain ⟨front, last, hparts⟩ := exists_parts_eq path
  rw [Path.endsInName, hparts, List.getLast?_concat] at h
  rw [Path.names, hparts]
  exact foldlM_follow_filter (by simpa using h) front here

/-- **Where a path leads depends on its components only.** -/
theorem followAll_congr {path path' : String} (h : Path.components path = Path.components path')
    (hpath : Path.IsFollowable path) (hpath' : Path.IsFollowable path') :
    tree.followAll path (Path.parts path) = tree.followAll path' (Path.parts path') := by
  have hnul : path.toList.contains '\x00' = path'.toList.contains '\x00' := by
    rw [Bool.eq_iff_iff, List.contains_iff_mem, List.contains_iff_mem,
      Path.mem_toList_iff (by decide) (by decide), Path.mem_toList_iff (by decide) (by decide),
      Path.names_congr h]
  have hne : ∀ {path}, Path.endsInName path = true → path ≠ "" := by
    rintro path hends rfl
    exact absurd hends (by decide)
  rw [followAll, followAll, hnul, if_neg (hne hpath.ends), if_neg (hne hpath'.ends),
    if_neg (Nat.not_lt.2 hpath.size), if_neg (Nat.not_lt.2 hpath'.size), Path.isAbsolute_congr h,
    ← foldlM_follow_names hpath.ends, ← foldlM_follow_names hpath'.ends, Path.names_congr h]

/-- It does not matter to the files of a tree how their paths are spelled. -/
theorem ignoresSpelling (tree : FileTree) : (Files.ofTree tree).IgnoresSpelling where
  isFile h hpath hpath' := by
    simp only [Files.ofTree, isFile, nodeAt, followAll_congr h hpath hpath']
  read h hpath hpath' := by
    simp only [Files.ofTree, read, nodeAt, followAll_congr h hpath hpath']

end FileTree

end TexGlyph
