import Rowwise.Table.Separator

/-!
# Datasets

A table with optional headers whose rows may differ in length.
-/

namespace Rowwise

/-- The cells of one row. -/
abbrev Row := List Text

/-- Parsed delimited text: header names in lower case, none if there was no header row, and the
data rows in the order of the text. -/
structure Dataset where
  headers : List Text
  rows : List Row
  deriving DecidableEq

namespace Dataset

/-- The number of columns of the widest row, headers included. -/
def columnCount (data : Dataset) : Nat :=
  data.rows.foldl (fun widest row => max widest row.length) data.headers.length

/-- Whether there is no data row. -/
def isEmpty (data : Dataset) : Bool :=
  data.rows.isEmpty

/-- The dataset of some rows; with `header`, the first of them names the columns. -/
def ofRows (header : Bool) (rows : List Row) : Dataset :=
  match header, rows with
  | true, names :: rows => ⟨names.map Text.lower, rows⟩
  | true, [] => ⟨[], []⟩
  | false, rows => ⟨[], rows⟩

end Dataset

end Rowwise
