import TexGlyph.Text.Blank

/-!
# Paths

A path is a text whose components are separated by slashes.  Two paths name the same place by
their form if they agree in their components: repeated slashes, slashes at the end and components
`.` that are not the first do not count.
-/

namespace TexGlyph.Path

/-- Whether the path starts from the root. -/
def isAbsolute (path : String) : Bool := path.toList.head? = some '/'

/-- The parts between slashes, among them empty ones. -/
def parts (path : String) : List String := (cutAt '/' path.toList).map String.ofList

/-- The path without the slashes at its end; slashes alone, which stand for the root, stay. -/
def trimSlashes (path : String) : String :=
  match path.toList.reverse.dropWhile (· = '/') with
  | [] => path
  | cs => String.ofList cs.reverse

/-- Whether a part of a path does not count, if it is not the first. -/
def isEmptyPart (part : String) : Bool := part = "" || part = "."

/-- The components that a path is compared by.  The root is the component `/`. -/
def components (path : String) : List String :=
  let parts := parts path
  if isAbsolute path then "/" :: parts.filter (!isEmptyPart ·)
  else (parts.take 1).filter (· ≠ "") ++ (parts.drop 1).filter (!isEmptyPart ·)

/-- The path of a file in a directory; an absolute path stays as it is. -/
def join (directory file : String) : String :=
  if isAbsolute file || directory = "" then file
  else if directory.toList.getLast? = some '/' then directory ++ file
  else directory ++ "/" ++ file

/-- A path below the working directory without components that do not count. -/
def tidy (path : String) : String :=
  "/".intercalate ((parts path).filter (!isEmptyPart ·))

/-- The path with a suffix after its last component, if that is a name. -/
def withSuffix? (suffix path : String) : Option String :=
  match (parts path).reverse.dropWhile isEmptyPart with
  | [] => none
  | last :: before =>
    if last = ".." then none
    else some ("/".intercalate (before.reverse ++ [last]) ++ suffix)

theorem parts_ne_nil (path : String) : parts path ≠ [] := by
  rw [parts, cutAt_eq_splitOn, ne_eq, List.map_eq_nil_iff]
  exact List.splitOn_ne_nil _ _

theorem not_mem_of_mem_parts {path part : String} (h : part ∈ parts path) : '/' ∉ part.toList := by
  obtain ⟨piece, hpiece, rfl⟩ := List.mem_map.1 h
  rw [String.toList_ofList]
  exact fun hslash => (mem_of_mem_cutAt hpiece hslash).2 rfl

/-- Only an absolute path has the root among its components. -/
theorem mem_components_iff {path : String} : "/" ∈ components path ↔ isAbsolute path = true := by
  rw [components]
  split
  · exact iff_of_true List.mem_cons_self ‹_›
  · refine iff_of_false (fun h => ?_) ‹_›
    have hpart : "/" ∈ parts path := by
      rcases List.mem_append.1 h with h | h
      · exact List.mem_of_mem_take (List.mem_filter.1 h).1
      · exact List.mem_of_mem_drop (List.mem_filter.1 h).1
    exact not_mem_of_mem_parts hpart List.mem_cons_self

end TexGlyph.Path
