import TexGlyph.Encoding.Utf8
import TexGlyph.Files.Tree

/-!
# Files

What the library asks of files: their content by path, or why there is none.
-/

namespace TexGlyph

/-- The files that can be read, by path. -/
structure Files where
  /-- The content of a file. -/
  read : String → Except FileFault (List UInt8)
  /-- Whether a path leads to a file and not to a directory or a device. -/
  isFile : String → Bool

namespace Files

/-- The files of a tree. -/
def ofTree (tree : FileTree) : Files := ⟨tree.read, tree.isFile⟩

/-- The text of a file, which has to be well-formed UTF-8. -/
def readText (files : Files) (path : String) : Except FileFault String :=
  match files.read path with
  | .error fault => .error fault
  | .ok bytes =>
    match Utf8.text? bytes with
    | some text => .ok text
    | none => .error .notText

end Files

end TexGlyph
