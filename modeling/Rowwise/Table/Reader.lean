import Rowwise.Table.Dataset

/-!
# Reading delimited text

Every text is a table: a quote that is never closed runs to the end, and a quote in the middle of
a cell opens or closes quoting there. A line feed, a carriage return and the two together each
end a row; a terminator at the end of the text starts no further row.

The reader is a state machine, one step a character. What depends on the next character (`""`
inside quotes, a line feed after a carriage return) is a state of its own.
-/

namespace Rowwise.Table

/-- Where the reader stands. -/
inductive Mode
  /-- Before the first character of a row. -/
  | fresh
  /-- Before the first character of a row, just after a carriage return. -/
  | afterReturn
  /-- Inside a row, outside quotes. -/
  | bare
  /-- Inside quotes. -/
  | quoted
  /-- Just after a quote that ended quoting. -/
  | closing
  deriving DecidableEq, Repr

/-- The rows read so far, the cells of the row being read and the characters of its last cell,
each newest first. -/
structure State where
  rows : List Row
  row : Row
  cell : Text
  mode : Mode

namespace State

/-- Nothing read yet. -/
def start : State := ⟨[], [], [], .fresh⟩

/-- One more character of the cell. -/
def push (s : State) (c : Char) (mode : Mode) : State :=
  { s with cell := c :: s.cell, mode }

/-- The cell is complete. -/
def endCell (s : State) : State :=
  { s with row := s.cell.reverse :: s.row, cell := [], mode := .bare }

/-- The row is complete. -/
def endRow (s : State) (mode : Mode) : State :=
  ⟨(s.cell.reverse :: s.row).reverse :: s.rows, [], [], mode⟩

/-- A character outside quotes. -/
def stepBare (kind : Separator) (s : State) (c : Char) : State :=
  if kind.quotes && c = '"' then { s with mode := .quoted }
  else if c = kind.char then s.endCell
  else if c = '\n' then s.endRow .fresh
  else if c = '\r' then s.endRow .afterReturn
  else s.push c .bare

/-- One character. -/
def step (kind : Separator) (s : State) (c : Char) : State :=
  match s.mode with
  | .fresh | .bare => s.stepBare kind c
  | .afterReturn => if c = '\n' then { s with mode := .fresh } else s.stepBare kind c
  | .quoted => if c = '"' then { s with mode := .closing } else s.push c .quoted
  | .closing => if c = '"' then s.push '"' .quoted else s.stepBare kind c

/-- The rows when the text ends here; a row that was begun is complete then. -/
def finish (s : State) : List Row :=
  match s.mode with
  | .fresh | .afterReturn => s.rows.reverse
  | .bare | .quoted | .closing => (s.endRow .fresh).rows.reverse

end State

/-- The rows of a text. -/
def rows (kind : Separator) (text : Text) : List Row :=
  (text.foldl (State.step kind) .start).finish

/-- The dataset that a text holds; with `header`, its first row names the columns. -/
def parse (text : Text) (kind : Separator) (header : Bool) : Dataset :=
  .ofRows header (rows kind text)

end Rowwise.Table
