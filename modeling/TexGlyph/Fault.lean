/-!
# Faults

What can be wrong with a request: a value that has no meaning, or a file that cannot be read.
-/

namespace TexGlyph

/-- Why a file could not be read as a text or written. -/
inductive FileFault where
  /-- There is no such file. -/
  | notFound
  /-- The path names a directory. -/
  | isDirectory
  /-- A directory on the way is a file. -/
  | notDirectory
  /-- The path or one of its components has too many bytes. -/
  | nameTooLong
  /-- The path holds a NUL. -/
  | nulInName
  /-- The bytes of the file are no UTF-8 text. -/
  | notText
  /-- Another cause, in the words of the system. -/
  | other (wording : String)
deriving DecidableEq, Repr

namespace FileFault

/-- The wording of a fault. -/
def message : FileFault → String
  | notFound => "No such file or directory (os error 2)"
  | isDirectory => "Is a directory (os error 21)"
  | notDirectory => "Not a directory (os error 20)"
  | nameTooLong => "File name too long (os error 36)"
  | nulInName => "file name contained an unexpected NUL byte"
  | notText => "stream did not contain valid UTF-8"
  | other wording => wording

end FileFault

/-- Why a request cannot be served. -/
inductive Fault where
  /-- A name that is no accent mode. -/
  | accentMode (given : String)
  /-- A key of an override that stands for no character. -/
  | codepoint (key : String)
  /-- A definition file that was asked for and cannot be read. -/
  | definitions (path : String) (cause : FileFault)
deriving DecidableEq, Repr

namespace Fault

/-- The wording of a fault. -/
def message : Fault → String
  | accentMode given => "accent mode must be 'text', 'math', or 'auto', got '" ++ given ++ "'"
  | codepoint key => "Invalid codepoint '" ++ key ++ "'"
  | definitions path cause =>
    "I/O error: cannot read definitions " ++ path ++ ": " ++ cause.message

end Fault

/-! ### Computations that may fail -/

/-- A computation in two parts gives a result only if both parts do. -/
theorem exists_of_bind_eq_ok {ε α β : Type} {x : Except ε α} {f : α → Except ε β} {b : β}
    (h : x >>= f = .ok b) : ∃ a, x = .ok a ∧ f a = .ok b := by
  cases x with
  | error fault => cases h
  | ok a => exact ⟨a, rfl, h⟩

theorem exists_of_map_eq_ok {ε α β : Type} {x : Except ε α} {f : α → β} {b : β}
    (h : x.map f = .ok b) : ∃ a, x = .ok a ∧ b = f a := by
  cases x with
  | error fault => cases h
  | ok a => exact ⟨a, rfl, (Except.ok.inj h).symm⟩

end TexGlyph
