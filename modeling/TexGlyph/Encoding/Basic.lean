import TexGlyph.Encoding.Utf16
import TexGlyph.Encoding.Utf8
import TexGlyph.Encoding.Windows1252
import TexGlyph.Log
import TexGlyph.Text.Blank

/-!
# Encodings of input

An encoding is a name and a way to read bytes; some are known by labels.  A byte-order mark in front
of the input says what the encoding is, whatever was asked for, and is no part of the text.  Without
one, `auto` takes only well-formed UTF-8, and a fixed encoding replaces every malformed sequence and
says so.
-/

namespace TexGlyph

/-- A character encoding. -/
structure Encoding where
  /-- The name. -/
  name : String
  /-- Reads bytes, without regard to byte-order marks. -/
  decode : List UInt8 → List Piece

namespace Encoding

/-- UTF-8. -/
def utf8 : Encoding := ⟨"UTF-8", Utf8.decode⟩

/-- UTF-16, the low byte first. -/
def utf16le : Encoding := ⟨"UTF-16LE", Utf16.decode .little⟩

/-- UTF-16, the high byte first. -/
def utf16be : Encoding := ⟨"UTF-16BE", Utf16.decode .big⟩

/-- Windows-1252, which also serves for ASCII and Latin-1. -/
def windows1252 : Encoding := ⟨"windows-1252", Windows1252.decode⟩

/-- The encodings that are known by labels, and these in lower case. -/
def labelled : List (Encoding × List String) :=
  [(utf8, ["unicode-1-1-utf-8", "unicode11utf8", "unicode20utf8", "utf-8", "utf8",
      "x-unicode20utf8"]),
    (utf16le, ["csunicode", "iso-10646-ucs-2", "ucs-2", "unicode", "unicodefeff", "utf-16",
      "utf-16le"]),
    (utf16be, ["unicodefffe", "utf-16be"]),
    (windows1252, ["ansi_x3.4-1968", "ascii", "cp1252", "cp819", "csisolatin1", "ibm819",
      "iso-8859-1", "iso-ir-100", "iso8859-1", "iso88591", "iso_8859-1", "iso_8859-1:1987", "l1",
      "latin1", "us-ascii", "windows-1252", "x-cp1252"])]

/-- The encoding with the given label.  Case does not matter, nor do blanks at the ends. -/
def ofLabel? (label : String) : Option Encoding :=
  let label := String.ofList ((trim label.toList).map Char.toLower)
  (labelled.find? (·.2.contains label)).map (·.1)

/-- The encoding that a byte-order mark announces, and the bytes after the mark. -/
def marked? : List UInt8 → Option (Encoding × List UInt8)
  | 0xEF :: 0xBB :: 0xBF :: rest => some (utf8, rest)
  | 0xFF :: 0xFE :: rest => some (utf16le, rest)
  | 0xFE :: 0xFF :: rest => some (utf16be, rest)
  | _ => none

end Encoding

/-- How input is to be read. -/
inductive InputEncoding where
  /-- By its byte-order mark, or as well-formed UTF-8. -/
  | auto
  /-- In the given encoding, unless there is a byte-order mark. -/
  | fixed (encoding : Encoding)

/-- Why input cannot be read. -/
inductive InputFault where
  /-- No encoding has this label. -/
  | unknownEncoding (label : String)
  /-- The input has no byte-order mark and is not well-formed UTF-8. -/
  | undetected
deriving DecidableEq, Repr

/-- The wording of a fault. -/
def InputFault.message : InputFault → String
  | unknownEncoding label => "unknown encoding '" ++ label ++ "'"
  | undetected => "could not auto-detect the input encoding; please pass --input-encoding"

/-- A remark on the reading of input. -/
inductive InputNote where
  /-- The byte-order mark of the encoding with this name was found. -/
  | detected (encoding : String)
  /-- Sequences that are malformed in the encoding with this name were replaced. -/
  | replaced (encoding : String)
deriving DecidableEq, Repr

/-- The line of the log for a remark. -/
def InputNote.entry : InputNote → LogEntry
  | detected encoding => ⟨.debug, "detected " ++ encoding ++ " byte-order mark"⟩
  | replaced encoding =>
    ⟨.warn, "input is not valid " ++ encoding ++ "; invalid sequences were replaced"⟩

/-- Input that has been read. -/
structure DecodedInput where
  /-- The text. -/
  text : String
  /-- The remarks. -/
  notes : List InputNote := []
deriving DecidableEq, Repr

namespace InputEncoding

/-- What is used where nothing is asked for. -/
def usual : InputEncoding := fixed .utf8

/-- The name of a way to read input. -/
def name : InputEncoding → String
  | auto => "AUTO"
  | fixed e => e.name

/-- The way to read input that a label asks for. -/
def ofLabel (label : String) : Except InputFault InputEncoding :=
  if label.toList.map Char.toLower = "auto".toList then .ok auto
  else match Encoding.ofLabel? label with
    | some e => .ok (fixed e)
    | none => .error (.unknownEncoding label)

/-- Reads input. -/
def decode (choice : InputEncoding) (bytes : List UInt8) : Except InputFault DecodedInput :=
  match choice with
  | auto =>
    match Encoding.marked? bytes with
    | some (e, rest) => .ok ⟨Piece.text (e.decode rest), [.detected e.name]⟩
    | none =>
      match Utf8.text? bytes with
      | some text => .ok ⟨text, []⟩
      | none => .error .undetected
  | fixed e =>
    let (used, rest) := (Encoding.marked? bytes).getD (e, bytes)
    let pieces := used.decode rest
    .ok ⟨Piece.text pieces, if pieces.contains .malformed then [.replaced used.name] else []⟩

end InputEncoding

end TexGlyph
