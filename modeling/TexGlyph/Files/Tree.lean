import TexGlyph.Fault
import TexGlyph.Files.Path

/-!
# Trees of files

A tree holds the files below a directory, its top, by their components; the directories are those
that files lie in.  Paths are followed one component at a time, and each component before the last
has to be a directory.  Of what lies outside the tree only the root, the directory of devices and
the null device are known; what is written outside is not kept.
-/

namespace TexGlyph

/-- The files below a directory. -/
structure FileTree where
  /-- The components and the content of each file. -/
  files : List (List String × List UInt8)
deriving DecidableEq, Repr

/-- What a path leads to. -/
inductive Place where
  /-- Components below the top of the tree. -/
  | below (names : List String)
  /-- One of the directories that the top lies in. -/
  | above
  /-- Something else in one of these directories. -/
  | beside
  /-- Components below the root. -/
  | system (names : List String)
deriving DecidableEq, Repr

namespace Place

/-- The directory of a place; the root is its own. -/
def parent : Place → Place
  | below [] => above
  | below names => below names.dropLast
  | above => above
  | beside => above
  | system names => system names.dropLast

/-- A place in a directory. -/
def child (name : String) : Place → Place
  | below names => below (names ++ [name])
  | above => beside
  | beside => beside
  | system names => system (names ++ [name])

end Place

/-- What lies at a place. -/
inductive FileNode where
  /-- A file. -/
  | file (bytes : List UInt8)
  /-- The device that holds nothing and takes everything. -/
  | nullDevice
  /-- A directory. -/
  | directory
  /-- Nothing. -/
  | missing
deriving DecidableEq, Repr

namespace FileTree

/-- What lies at a place. -/
def node (tree : FileTree) : Place → FileNode
  | .below names =>
    match tree.files.lookup names with
    | some bytes => .file bytes
    | none =>
      if names = [] ∨ tree.files.any fun f => names.isPrefixOf f.1 then .directory else .missing
  | .above => .directory
  | .beside => .missing
  | .system names =>
    if names = [] ∨ names = ["dev"] then .directory
    else if names = ["dev", "null"] then .nullDevice
    else .missing

/-- Whether a path can go on from a place. -/
def enter (tree : FileTree) (place : Place) : Except FileFault Unit :=
  match tree.node place with
  | .directory => .ok ()
  | .missing => .error .notFound
  | .file _ | .nullDevice => .error .notDirectory

/-- The greatest number of bytes of a component. -/
def maxNameSize : Nat := 255

/-- The greatest number of bytes of a path. -/
def maxPathSize : Nat := 4095

/-- Follows one part of a path. -/
def follow (tree : FileTree) (here : Place) (part : String) : Except FileFault Place := do
  tree.enter here
  if part = "" ∨ part = "." then return here
  else if part = ".." then return here.parent
  else if maxNameSize < part.utf8ByteSize then throw .nameTooLong
  else return here.child part

/-- Follows the parts of a path, which as a whole has to be one that can be followed. -/
def followAll (tree : FileTree) (path : String) (parts : List String) : Except FileFault Place :=
  if path.toList.contains '\x00' then .error .nulInName
  else if path = "" then .error .notFound
  else if maxPathSize < path.utf8ByteSize then .error .nameTooLong
  else parts.foldlM tree.follow (if Path.isAbsolute path then .system [] else .below [])

/-- What lies at the end of a path. -/
def nodeAt (tree : FileTree) (path : String) : Except FileFault FileNode :=
  (tree.followAll path (Path.parts path)).map tree.node

/-- Whether a path leads to a file; a device is none. -/
def isFile (tree : FileTree) (path : String) : Bool :=
  match tree.nodeAt path with
  | .ok (.file _) => true
  | _ => false

/-- Reads a file. -/
def read (tree : FileTree) (path : String) : Except FileFault (List UInt8) :=
  match tree.nodeAt path with
  | .error fault => .error fault
  | .ok (.file bytes) => .ok bytes
  | .ok .nullDevice => .ok []
  | .ok .directory => .error .isDirectory
  | .ok .missing => .error .notFound

/-- The place where a file can be written: its directory has to exist.  A slash at the end asks
for a directory, whatever the component before it is. -/
def target (tree : FileTree) (path : String) : Except FileFault Place := do
  let trimmed := Path.trimSlashes path
  let parts := Path.parts trimmed
  let directory ← tree.followAll path parts.dropLast
  tree.enter directory
  if trimmed ≠ path then throw .isDirectory
  let place ← tree.follow directory (parts.getLast?.getD "")
  if tree.node place = .directory then throw .isDirectory
  return place

/-- The tree after writing a file. -/
def write (tree : FileTree) (path : String) (bytes : List UInt8) : Except FileFault FileTree :=
  (tree.target path).map fun place =>
    match place with
    | .below names => ⟨(names, bytes) :: tree.files.filter (·.1 ≠ names)⟩
    | _ => tree

end FileTree

end TexGlyph
