import TexGlyph.Toml.Value

/-!
# Tables under construction

The lines of a document add to its tables one by one.  What may be added depends on how a table
came to be: a header defines a table once, a table that only stands in the path of a header may
still get one, and a table made by a dotted key can be extended by dotted keys alone.
-/

namespace TexGlyph.Toml

/-- How a table came to be. -/
inductive TableKind where
  /-- By its own header, or as the whole document. -/
  | header
  /-- As a part of the path of another header. -/
  | implicit
  /-- By a dotted key. -/
  | dotted
deriving DecidableEq, Repr

/-- An entry of a table under construction. -/
inductive Node where
  /-- A value, which cannot be extended. -/
  | value (v : Value)
  /-- A table. -/
  | table (kind : TableKind) (entries : List (String × Node))
  /-- An array of tables, each with its own header. -/
  | tables (elements : List (List (String × Node)))

/-- The entries of a table. -/
abbrev Entries := List (String × Node)

namespace Entries

/-- Changes the entry of a key, or adds one. -/
def alter (key : String) (f : Option Node → Option Node) : Entries → Option Entries
  | [] => (f none).map fun node => [(key, node)]
  | (k, node) :: rest =>
    if k = key then (f (some node)).map fun node => (k, node) :: rest
    else (alter key f rest).map fun rest => (k, node) :: rest

/-- Changes the table at the end of a path.  Tables on the way are made as needed; of an array of
tables the last one is meant.  A dotted key does not pass through a table with a header. -/
def descend (dotted : Bool) :
    List String → (TableKind → Entries → Option Entries) → TableKind → Entries → Option Entries
  | [], leaf, kind, entries => leaf kind entries
  | key :: path, leaf, _, entries =>
    alter key (fun
      | none =>
        let kind := if dotted then .dotted else .implicit
        (descend dotted path leaf kind []).map (.table kind)
      | some (.value _) => none
      | some (.tables elements) =>
        (descend dotted path leaf .header (elements.getLast?.getD [])).map fun last =>
          .tables (elements.dropLast ++ [last])
      | some (.table kind inner) =>
        if dotted ∧ kind = .header then none
        else (descend dotted path leaf kind inner).map (.table kind)) entries

/-- Adds a value under a key.  A dotted key adds to tables made by dotted keys only, and no key
is given twice. -/
def addValue (path : List String) (key : String) (v : Value) (kind : TableKind)
    (entries : Entries) : Option Entries :=
  descend true path (fun kind entries =>
    if (kind = .dotted) = (path = []) then none
    else alter key (fun
      | none => some (.value v)
      | some _ => none) entries) kind entries

/-- Starts a table with a header.  A table that was only part of a path keeps its entries and
moves behind the others. -/
def startTable (path : List String) (key : String) (entries : Entries) : Option Entries :=
  descend false path (fun _ entries =>
    match entries.lookup key with
    | none => some (entries ++ [(key, .table .header [])])
    | some (.table .implicit inner) =>
      some (entries.filter (·.1 ≠ key) ++ [(key, .table .header inner)])
    | some _ => none) .header entries

/-- Starts a further table of an array of tables. -/
def startElement (path : List String) (key : String) (entries : Entries) : Option Entries :=
  descend false path (fun _ entries =>
    alter key (fun
      | none => some (.tables [[]])
      | some (.tables elements) => some (.tables (elements ++ [[]]))
      | some _ => none) entries) .header entries

end Entries

mutual

/-- The value of a finished entry. -/
def Node.toValue : Node → Value
  | .value v => v
  | .table _ entries => .table (entryValues entries)
  | .tables elements => .array (elementValues elements)

/-- The values of finished entries. -/
def entryValues : List (String × Node) → List (String × Value)
  | [] => []
  | (key, node) :: rest => (key, node.toValue) :: entryValues rest

/-- The values of the finished tables of an array. -/
def elementValues : List (List (String × Node)) → List Value
  | [] => []
  | entries :: rest => .table (entryValues entries) :: elementValues rest

end

end TexGlyph.Toml
