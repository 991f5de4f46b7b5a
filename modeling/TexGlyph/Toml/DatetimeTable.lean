import TexGlyph.Toml.Datetime

/-!
# Tables that stand for dates and times

A table whose first key is the reserved one is no table but the date or time that is written in
the text under this key; what else it holds does not count.  `settled?` puts the dates in the place
of such tables, at any depth, and fails if there is no date to put.
-/

namespace TexGlyph.Toml

/-- The key of a date or time that is written as a table. -/
def datetimeKey : String := "$__toml_private_datetime"

mutual

/-- The value with dates and times in the place of the tables that stand for them. -/
def Value.settled? : Value → Option Value
  | .array items => (settledItems? items).map .array
  | .table [] => some (.table [])
  | .table ((key, v) :: rest) =>
    if key = datetimeKey then
      match v with
      | .string text => (datetimeText? text).map .datetime
      | _ => none
    else
      v.settled?.bind fun v => (settledEntries? rest).map fun rest => .table ((key, v) :: rest)
  | v => some v

/-- The items of an array, each settled. -/
def settledItems? : List Value → Option (List Value)
  | [] => some []
  | v :: rest => v.settled?.bind fun v => (settledItems? rest).map (v :: ·)

/-- The entries of a table, each settled. -/
def settledEntries? : List (String × Value) → Option (List (String × Value))
  | [] => some []
  | (key, v) :: rest =>
    v.settled?.bind fun v => (settledEntries? rest).map ((key, v) :: ·)

end

end TexGlyph.Toml
