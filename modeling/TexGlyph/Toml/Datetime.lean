import TexGlyph.Toml.Value

/-!
# Dates and times of TOML

A date, a time, or a date and a time with or without an offset.  What is read is the normal form:
a `T` between date and time, an upper-case `Z`, and fractions of a second of at most nine digits
without zeros at the end.
-/

namespace TexGlyph.Toml

/-- Reads a number of exactly `count` digits between `low` and `high`; gives its digits. -/
def field? (count low high : Nat) : Reader (List Char) := fun cs =>
  let ds := cs.take count
  let n := ds.foldl (fun n c => 10 * n + (c.toNat - 0x30)) 0
  if ds.length = count ∧ ds.all Char.isDigit ∧ low ≤ n ∧ n ≤ high then some (ds, cs.drop count)
  else none

/-- The number that digits stand for. -/
def fieldValue (ds : List Char) : Nat := ds.foldl (fun n c => 10 * n + (c.toNat - 0x30)) 0

/-- Reads a given character. -/
def mark? (c : Char) : Reader (List Char)
  | [] => none
  | d :: cs => if d = c then some ([c], cs) else none

/-- The number of days of a month. -/
def daysOf (year month : Nat) : Nat :=
  if month = 2 then
    if year % 4 = 0 ∧ (year % 100 ≠ 0 ∨ year % 400 = 0) then 29 else 28
  else if month = 4 ∨ month = 6 ∨ month = 9 ∨ month = 11 then 30
  else 31

/-- Reads a date. -/
def date? : Reader (List Char) := fun cs =>
  (field? 4 0 9999 cs).bind fun (year, cs) =>
  (mark? '-' cs).bind fun (_, cs) =>
  (field? 2 1 12 cs).bind fun (month, cs) =>
  (mark? '-' cs).bind fun (_, cs) =>
  (field? 2 1 (daysOf (fieldValue year) (fieldValue month)) cs).map fun (day, cs) =>
    (year ++ '-' :: month ++ '-' :: day, cs)

/-- The normal form of the digits after the point of a second. -/
def fraction (ds : List Char) : List Char :=
  match ((ds.take 9).reverse.dropWhile (· = '0')).reverse with
  | [] => []
  | ds => '.' :: ds

/-- Reads a time. -/
def time? : Reader (List Char) := fun cs =>
  (field? 2 0 23 cs).bind fun (hour, cs) =>
  (mark? ':' cs).bind fun (_, cs) =>
  (field? 2 0 59 cs).bind fun (minute, cs) =>
  (mark? ':' cs).bind fun (_, cs) =>
  (field? 2 0 60 cs).bind fun (second, cs) =>
    let time := hour ++ ':' :: minute ++ ':' :: second
    match cs with
    | '.' :: rest =>
      if (rest.takeWhile Char.isDigit).isEmpty then some (time, cs)
      else some (time ++ fraction (rest.takeWhile Char.isDigit), rest.dropWhile Char.isDigit)
    | cs => some (time, cs)

/-- Reads the hours and minutes of an offset; an offset of nothing is positive. -/
def offsetRest? (sign : Char) : Reader (List Char) := fun cs =>
  (field? 2 0 23 cs).bind fun (hour, cs) =>
  (mark? ':' cs).bind fun (_, cs) =>
  (field? 2 0 59 cs).map fun (minute, cs) =>
    let sign := if fieldValue hour = 0 ∧ fieldValue minute = 0 then '+' else sign
    (sign :: hour ++ ':' :: minute, cs)

/-- Reads an offset; nothing in front of the rest if there is none at all. -/
def offset? : Reader (List Char)
  | 'Z' :: cs => some (['Z'], cs)
  | 'z' :: cs => some (['Z'], cs)
  | '+' :: cs => offsetRest? '+' cs
  | '-' :: cs => offsetRest? '-' cs
  | cs => some ([], cs)

/-- Reads the time after a date, if there is one. -/
def afterDate? (date : List Char) : Reader (List Char)
  | c :: cs =>
    if c = 'T' ∨ c = 't' ∨ c = ' ' then
      match time? cs with
      | none => some (date, c :: cs)
      | some (time, cs) => (offset? cs).map fun (offset, cs) => (date ++ 'T' :: time ++ offset, cs)
    else some (date, c :: cs)
  | [] => some (date, [])

/-- Reads a date, a time, or both. -/
def datetime? : Reader String := fun cs =>
  ((match date? cs with
    | some (date, cs) => afterDate? date cs
    | none => time? cs)).map fun (text, cs) => (String.ofList text, cs)

/-- The normal form of a text that is a date, a time, or both. -/
def datetimeText? (text : String) : Option String :=
  match datetime? text.toList with
  | some (normal, []) => some normal
  | _ => none

example : datetimeText? "1979-05-27 07:32:00.50-00:00" = some "1979-05-27T07:32:00.5+00:00" := by
  decide +kernel
example : datetimeText? "12:00:00Z" = none := by decide +kernel

end TexGlyph.Toml
