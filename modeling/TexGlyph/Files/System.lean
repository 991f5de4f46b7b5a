import TexGlyph.Files.Basic

/-!
# Systems of files

What a run needs of the files around it: they can be read, and one of them can be written.  A file
is written as a whole or not at all, and what was written to a file is read there afterwards
(`FileSystem.read_write`).  A device takes what is written to it and need not give it back.

The files below a directory are such a system (`FileTree.system`).  Writing one makes no directory
and takes none away (`FileTree.node_put_eq_directory`), so its path leads to the same place before
and after.
-/

namespace TexGlyph

/-- A system of files, with states of the type `σ`. -/
structure FileSystem (σ : Type) where
  /-- The files in a state. -/
  files : σ → Files
  /-- The state after a file is written, or why nothing is. -/
  write : σ → String → List UInt8 → Except FileFault σ
  /-- A file that was written holds what was written. -/
  read_write : ∀ {s s' : σ} {path : String} {bytes : List UInt8}, write s path bytes = .ok s' →
    (files s').isFile path = true → (files s').read path = .ok bytes

namespace FileTree

variable {tree tree' : FileTree}

/-! ### Following paths -/

/-- A path can go on from directories only. -/
theorem enter_eq_ok_iff {place : Place} {u : Unit} :
    tree.enter place = .ok u ↔ tree.node place = .directory := by
  rw [enter]
  cases tree.node place <;> simp

/-- Where one part of a path leads depends on the tree by its directories only. -/
theorem follow_of_directories (h : ∀ place, tree.node place = .directory →
    tree'.node place = .directory) {here there : Place} {part : String}
    (hfollow : tree.follow here part = .ok there) : tree'.follow here part = .ok there := by
  obtain ⟨u, henter, hfollow⟩ := exists_of_bind_eq_ok hfollow
  have henter' : tree'.enter here = .ok u := enter_eq_ok_iff.2 (h here (enter_eq_ok_iff.1 henter))
  rw [follow, henter']
  exact hfollow

theorem foldlM_follow_of_directories (h : ∀ place, tree.node place = .directory →
    tree'.node place = .directory) {parts : List String} {here there : Place}
    (hfollow : parts.foldlM tree.follow here = .ok there) :
    parts.foldlM tree'.follow here = .ok there := by
  induction parts generalizing here with
  | nil => exact hfollow
  | cons part parts ih =>
    obtain ⟨next, hstep, hfollow⟩ := exists_of_bind_eq_ok hfollow
    rw [List.foldlM_cons, follow_of_directories h hstep]
    exact ih hfollow

/-- The parts of a path are followed from the root or the top, if the path can be followed at
all. -/
theorem followAll_eq {path : String} {parts : List String} {place : Place}
    (h : tree.followAll path parts = .ok place) (tree' : FileTree) (parts' : List String) :
    tree'.followAll path parts' =
      parts'.foldlM tree'.follow (if Path.isAbsolute path then .system [] else .below []) := by
  rw [followAll] at h
  by_cases hnul : path.toList.contains '\x00' = true
  · rw [if_pos hnul] at h
    cases h
  · by_cases hempty : path = ""
    · rw [if_neg hnul, if_pos hempty] at h
      cases h
    · by_cases hsize : maxPathSize < path.utf8ByteSize
      · rw [if_neg hnul, if_neg hempty, if_pos hsize] at h
        cases h
      · rw [followAll, if_neg hnul, if_neg hempty, if_neg hsize]

/-! ### Files below the top -/

/-- Files lie below the top. -/
theorem exists_below_of_node_eq_file {place : Place} {bytes : List UInt8}
    (h : tree.node place = .file bytes) : ∃ names, place = .below names := by
  cases place with
  | below names => exact ⟨names, rfl⟩
  | above => cases h
  | beside => cases h
  | system names =>
    rw [node] at h
    split at h
    · cases h
    · split at h <;> cases h

/-- The path of a file leads to a place below the top. -/
theorem exists_followAll_of_isFile {path : String} (h : tree.isFile path = true) :
    ∃ names, tree.followAll path (Path.parts path) = .ok (.below names) := by
  rw [isFile] at h
  split at h
  · rename_i bytes hnode
    obtain ⟨place, hfollow, hfile⟩ := exists_of_map_eq_ok hnode
    obtain ⟨names, rfl⟩ := exists_below_of_node_eq_file hfile.symm
    exact ⟨names, hfollow⟩
  · cases h

/-! ### Writing a file -/

/-- The tree after the file at a place is written. -/
def put (tree : FileTree) (bytes : List UInt8) : Place → FileTree
  | .below names => ⟨(names, bytes) :: tree.files.filter (·.1 ≠ names)⟩
  | _ => tree

theorem write_eq (tree : FileTree) (path : String) (bytes : List UInt8) :
    tree.write path bytes = (tree.target path).map (tree.put bytes) := rfl

/-- What is elsewhere below the top stays. -/
theorem lookup_filter_ne {names other : List String} (h : other ≠ names)
    (files : List (List String × List UInt8)) :
    (files.filter (·.1 ≠ names)).lookup other = files.lookup other := by
  induction files with
  | nil => rfl
  | cons f files ih =>
    obtain ⟨place, bytes⟩ := f
    by_cases hplace : place = names
    · have hne : (other == place) = false := by rw [hplace, beq_false_of_ne h]
      rw [List.filter_cons_of_neg (by simp [hplace]), ih, List.lookup_cons, hne]
    · rw [List.filter_cons_of_pos (by simp [hplace]), List.lookup_cons, List.lookup_cons, ih]

/-- The directories below the top are those that files lie in, and the top. -/
theorem node_below_eq_directory_iff {names : List String} :
    tree.node (.below names) = .directory ↔
      tree.files.lookup names = none ∧ (names = [] ∨ ∃ f ∈ tree.files, names <+: f.1) := by
  have hany : (∃ f ∈ tree.files, names <+: f.1) ↔
      tree.files.any (fun f => names.isPrefixOf f.1) = true := by
    simp only [List.any_eq_true, List.isPrefixOf_iff_prefix]
  rw [hany, node]
  cases tree.files.lookup names with
  | some bytes => simp
  | none =>
    by_cases h : names = [] ∨ tree.files.any (fun f => names.isPrefixOf f.1) = true
    · exact iff_of_true (if_pos h) ⟨rfl, h⟩
    · exact iff_of_false (fun heq => by simp [if_neg h] at heq) fun hboth => h hboth.2

/-- A file that is put where there is no directory takes no directory away. -/
theorem node_put_eq_directory {names : List String} (h : tree.node (.below names) ≠ .directory)
    (bytes : List UInt8) {place : Place} (hplace : tree.node place = .directory) :
    (tree.put bytes (.below names)).node place = .directory := by
  cases place with
  | above => exact hplace
  | beside => exact hplace
  | system other => exact hplace
  | below other =>
    have hne : other ≠ names := fun heq => h (heq ▸ hplace)
    obtain ⟨hlookup, hbelow⟩ := node_below_eq_directory_iff.1 hplace
    refine node_below_eq_directory_iff.2 ⟨?_, hbelow.imp_right fun ⟨f, hf, hprefix⟩ => ?_⟩
    · rw [put, List.lookup_cons, beq_false_of_ne hne]
      exact (lookup_filter_ne hne tree.files).trans hlookup
    · -- The file in the directory is still there, or it is the one that was put.
      by_cases hname : f.1 = names
      · exact ⟨(names, bytes), List.mem_cons_self, hname ▸ hprefix⟩
      · exact ⟨f, List.mem_cons_of_mem _ (List.mem_filter.2 ⟨hf, by simp [hname]⟩), hprefix⟩

theorem exists_parts_eq (path : String) : ∃ before last, Path.parts path = before ++ [last] :=
  ⟨_, _, (List.dropLast_concat_getLast (Path.parts_ne_nil path)).symm⟩

/-- Where a file can be written there is no directory, and its path leads there. -/
theorem of_target {path : String} {place : Place} (h : tree.target path = .ok place) :
    tree.node place ≠ .directory ∧ tree.followAll path (Path.parts path) = .ok place := by
  obtain ⟨before, last, hparts⟩ := exists_parts_eq path
  obtain ⟨directory, hdirectory, h⟩ := exists_of_bind_eq_ok h
  obtain ⟨_, _, h⟩ := exists_of_bind_eq_ok h
  by_cases htrimmed : Path.trimSlashes path = path
  · rw [htrimmed, hparts, List.dropLast_concat] at hdirectory
    rw [htrimmed, hparts, if_neg (not_not_intro rfl), List.getLast?_concat] at h
    obtain ⟨there, hthere, h⟩ := exists_of_bind_eq_ok h
    by_cases hnode : tree.node there = .directory
    · rw [if_pos hnode] at h
      cases h
    · rw [if_neg hnode] at h
      cases h
      have hfollow := followAll_eq hdirectory tree
      rw [hfollow] at hdirectory
      rw [hfollow, hparts, List.foldlM_append, hdirectory]
      exact ⟨hnode, (bind_pure _).trans hthere⟩
  · rw [if_pos htrimmed] at h
    cases h

/-- **A file that was written holds what was written.**  No directory on its path has gone, so the
path leads to the place where the file was put; nothing else that can be written is a file. -/
theorem read_of_write {path : String} {bytes : List UInt8} (h : tree.write path bytes = .ok tree')
    (hfile : tree'.isFile path = true) : tree'.read path = .ok bytes := by
  rw [write_eq] at h
  obtain ⟨place, htarget, rfl⟩ := exists_of_map_eq_ok h
  obtain ⟨hnode, hfollow⟩ := of_target htarget
  by_cases hbelow : ∃ names, place = .below names
  · obtain ⟨names, rfl⟩ := hbelow
    have hput : (tree.put bytes (.below names)).followAll path (Path.parts path) =
        .ok (.below names) := by
      have hfollowed := followAll_eq hfollow
      rw [hfollowed] at hfollow ⊢
      exact foldlM_follow_of_directories (fun _ => node_put_eq_directory hnode bytes) hfollow
    have hlookup : (tree.put bytes (.below names)).files.lookup names = some bytes :=
      List.lookup_cons_self
    rw [read, nodeAt, hput]
    simp only [Except.map, node, hlookup]
  · have hsame : tree.put bytes place = tree := by
      cases place with
      | below names => exact absurd ⟨names, rfl⟩ hbelow
      | _ => rfl
    rw [hsame] at hfile
    obtain ⟨names, hfollow'⟩ := exists_followAll_of_isFile hfile
    exact absurd ⟨names, Except.ok.inj (hfollow.symm.trans hfollow')⟩ hbelow

/-- The files below a directory. -/
def system : FileSystem FileTree where
  files := .ofTree
  write := write
  read_write := read_of_write

end FileTree

end TexGlyph
