import TexGlyph.Toml.DatetimeTable
import TexGlyph.Toml.Lexical
import TexGlyph.Toml.Number
import TexGlyph.Toml.Table

/-!
# Reading TOML documents

A document is read line by line: blank lines and comments, headers of tables, and keys with
values.  Arrays and inline tables nest to a fixed depth, which no key exceeds by its parts.  Reading either gives the table of the
whole document or fails; it does not say where.
-/

namespace TexGlyph.Toml

/-- Reads a value that is no array and no table. -/
def scalar? : Reader Value := fun cs =>
  match cs with
  | 't' :: 'r' :: 'u' :: 'e' :: cs => some (.boolean true, cs)
  | 'f' :: 'a' :: 'l' :: 's' :: 'e' :: cs => some (.boolean false, cs)
  | c :: _ =>
    if c = '\x22' ∨ c = '\x27' then (string? cs).map fun (text, cs) => (.string text, cs)
    else
      (((datetime? cs).map fun (text, cs) => (Value.datetime text, cs)).or
        ((float? cs).map fun (x, cs) => (Value.float x, cs))).or
        ((integer? cs).map fun (n, cs) => (Value.integer n, cs))
  | [] => none

/-- Reads the items of an array after its bracket, each by `item`. -/
def items? (item : Reader Value) : Nat → Reader (List Value)
  | 0, _ => none
  | bound + 1, cs =>
    match skipLines cs.length cs with
    | ']' :: cs => some ([], cs)
    | cs =>
      (item cs).bind fun (v, cs) =>
        match skipLines cs.length cs with
        | ',' :: cs => (items? item bound cs).map fun (vs, cs) => (v :: vs, cs)
        | ']' :: cs => some ([v], cs)
        | _ => none

/-- Reads a key, an equals sign and a value. -/
def pair? (item : Reader Value) : Reader (List String × Value) := fun cs =>
  (key? cs).bind fun (key, cs) =>
  (after? '=' cs).bind fun cs =>
  (item (skipSpace cs)).map fun (v, cs) => ((key, v), cs)

/-- Adds a value under the parts of a key. -/
def addPair (entries : Entries) (key : List String) (v : Value) : Option Entries :=
  match key.getLast? with
  | some last => entries.addValue key.dropLast last v .header
  | none => none

/-- Reads the pairs of an inline table after its brace and adds them to `entries`. -/
def pairs? (item : Reader Value) : Nat → Entries → Reader Entries
  | 0, _, _ => none
  | bound + 1, entries, cs =>
    (pair? item cs).bind fun ((key, v), cs) =>
    (addPair entries key v).bind fun entries =>
      match skipSpace cs with
      | ',' :: cs => pairs? item bound entries cs
      | '\x7d' :: cs => some (entries, cs)
      | _ => none

/-- Reads a value in which arrays and inline tables nest at most `depth` deep. -/
def value? : Nat → Reader Value
  | 0, cs => scalar? cs
  | depth + 1, cs =>
    match cs with
    | '[' :: cs => (items? (value? depth) (cs.length + 1) cs).map fun (vs, cs) => (.array vs, cs)
    | '\x7b' :: cs =>
      match skipSpace cs with
      | '\x7d' :: cs => some (.table [], cs)
      | cs =>
        (pairs? (value? depth) (cs.length + 1) [] cs).map fun (entries, cs) =>
          (.table (entryValues entries), cs)
    | cs => scalar? cs

/-- A line of a document that is not blank. -/
inductive Line where
  /-- A header of a table. -/
  | header (key : List String)
  /-- A header of an element of an array of tables. -/
  | element (key : List String)
  /-- A key with a value. -/
  | pair (key : List String) (v : Value)

/-- Reads a line that is not blank, without its end. -/
def line? : Reader Line
  | '[' :: '[' :: cs =>
    (key? cs).bind fun (key, cs) =>
    (after? ']' cs).bind fun cs =>
    (after? ']' cs).map fun cs => (.element key, cs)
  | '[' :: cs =>
    (key? cs).bind fun (key, cs) =>
    (after? ']' cs).map fun cs => (.header key, cs)
  | cs => (pair? (value? maxDepth) cs).map fun ((key, v), cs) => (.pair key v, cs)

/-- A document that has been read in part. -/
structure Draft where
  /-- The entries so far. -/
  entries : Entries := []
  /-- The path of the table that is being filled. -/
  path : List String := []

/-- The document after a further line. -/
def Draft.add (draft : Draft) : Line → Option Draft
  | .header key =>
    key.getLast?.bind fun last =>
      (draft.entries.startTable key.dropLast last).map fun entries => ⟨entries, key⟩
  | .element key =>
    key.getLast?.bind fun last =>
      (draft.entries.startElement key.dropLast last).map fun entries => ⟨entries, key⟩
  | .pair key v =>
    key.getLast?.bind fun last =>
      (Entries.descend false draft.path (fun _ entries =>
        entries.addValue key.dropLast last v .header) .header draft.entries).map
        fun entries => ⟨entries, draft.path⟩

/-- Reads the lines of a document; each takes at least one character. -/
def lines? : Nat → Draft → List Char → Option Draft
  | 0, _, _ => none
  | bound + 1, draft, cs =>
    match skipSpace cs with
    | [] => some draft
    | c :: rest =>
      match afterLine? (c :: rest) with
      | some cs => lines? bound draft cs
      | none =>
        (line? (c :: rest)).bind fun (line, cs) =>
        (draft.add line).bind fun draft =>
        (afterLine? cs).bind fun cs => lines? bound draft cs

/-- Reads a document; gives the entries of its table, which has to stay one.  A byte-order mark in
front is skipped. -/
def document? (text : String) : Option (List (String × Value)) :=
  let cs := (after? '\uFEFF' text.toList).getD text.toList
  match (lines? (cs.length + 1) {} cs).bind fun draft =>
    (Value.table (entryValues draft.entries)).settled? with
  | some (.table entries) => some entries
  | _ => none

end TexGlyph.Toml
