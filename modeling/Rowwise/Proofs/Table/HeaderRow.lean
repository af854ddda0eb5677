import Rowwise.Proofs.Table.Joining

/-!
# Table — Header row

What a header row changes: the first row of the text names the columns, in lower case, and is no
row of the table. Nothing else is read otherwise.

`parse` sets the first row apart when all rows are there. A reader that keeps no rows has to do it
on the way: it hands each row over as soon as the row is complete, and a flag tells whether the row
names the columns (`Pass`). That such a pass ends with the same dataset is due to two facts. A step
neither looks at the complete rows nor changes them (`State.step_after`), so it does not matter to
the reader that they are gone; and what has been handed over is at any time the dataset of the rows
that are complete by then (`foldl_take_start`), so the flag falls with the first of them, wherever
that row ends.
-/

namespace Rowwise.Table

/-! ## Handing rows over -/

/-- What has been handed over of a dataset, and whether the next row names its columns. -/
structure Intake where
  data : Dataset
  naming : Bool

namespace Intake

/-- Nothing has been handed over. -/
def start (header : Bool) : Intake := ⟨⟨[], []⟩, header⟩

/-- One more row. -/
def take (intake : Intake) (row : Row) : Intake :=
  if intake.naming then ⟨⟨row.map Text.lower, intake.data.rows⟩, false⟩
  else ⟨⟨intake.data.headers, intake.data.rows ++ [row]⟩, false⟩

/-- Once the columns have names, or are to have none, rows are rows of the table. -/
theorem foldl_take_named (headers : List Text) (rows more : List Row) :
    more.foldl take ⟨⟨headers, rows⟩, false⟩ = ⟨⟨headers, rows ++ more⟩, false⟩ := by
  induction more generalizing rows with
  | nil => simp
  | cons row more ih => simp [take, ih]

/-- **The dataset of the rows handed over**; the columns still wait for their names as long as there
is no row. -/
theorem foldl_take_start (header : Bool) (rows : List Row) :
    rows.foldl take (start header) = ⟨.ofRows header rows, header && rows.isEmpty⟩ := by
  cases rows with
  | nil => cases header <;> rfl
  | cons row rest =>
    cases header with
    | true => simp [start, take, foldl_take_named, Dataset.ofRows]
    | false => simp [start, take, foldl_take_named, Dataset.ofRows]

end Intake

/-- A reader that hands its rows over. -/
structure Pass where
  intake : Intake
  state : State

namespace Pass

/-- Before the first character. -/
def start (header : Bool) : Pass := ⟨.start header, .start⟩

/-- The rows that are complete are handed over, and the reader keeps none of them. -/
def handOver (pass : Pass) : Pass :=
  ⟨pass.state.rows.reverse.foldl Intake.take pass.intake, { pass.state with rows := [] }⟩

/-- One character. -/
def step (kind : Separator) (pass : Pass) (c : Char) : Pass :=
  handOver ⟨pass.intake, pass.state.step kind c⟩

/-- The dataset when the text ends here; a row that was begun is handed over then. -/
def finish (pass : Pass) : Dataset :=
  (pass.state.finish.foldl Intake.take pass.intake).data

end Pass

/-- The dataset that a text holds, read in one pass. -/
def parseInPass (text : Text) (kind : Separator) (header : Bool) : Dataset :=
  (text.foldl (Pass.step kind) (.start header)).finish

/-! ## Complete rows do not matter -/

namespace State

variable {kind : Separator}

/-- The reader with other rows complete before its own. -/
def after (s : State) (before : List Row) : State :=
  { s with rows := s.rows ++ before }

theorem stepBare_after (s : State) (before : List Row) (c : Char) :
    (s.after before).stepBare kind c = (s.stepBare kind c).after before := by
  unfold stepBare
  split
  · rfl
  · split
    · rfl
    · split
      · rfl
      · split <;> rfl

/-- **A step neither looks at the complete rows nor changes them.** -/
theorem step_after (s : State) (before : List Row) (c : Char) :
    (s.after before).step kind c = (s.step kind c).after before := by
  obtain ⟨rows, row, cell, mode⟩ := s
  cases mode with
  | fresh | bare => exact stepBare_after _ before c
  | afterReturn =>
    by_cases hc : c = '\n'
    · simp only [step, after, if_pos hc]
    · simpa only [step, after, if_neg hc] using stepBare_after ⟨rows, row, cell, .afterReturn⟩ before c
  | quoted =>
    by_cases hc : c = '"'
    · simp only [step, after, if_pos hc]
    · simp only [step, after, if_neg hc, push]
  | closing =>
    by_cases hc : c = '"'
    · simp only [step, after, if_pos hc, push]
    · simpa only [step, after, if_neg hc] using stepBare_after ⟨rows, row, cell, .closing⟩ before c

theorem finish_after (s : State) (before : List Row) :
    (s.after before).finish = before.reverse ++ s.finish := by
  obtain ⟨rows, row, cell, mode⟩ := s
  cases mode <;> simp [finish, after, endRow]

/-- The reader without the rows that are complete. -/
def bared (s : State) : State :=
  { s with rows := [] }

theorem bared_after (s : State) : s.bared.after s.rows = s := rfl

end State

/-! ## The pass -/

/-- **Where a pass is after some text**: it has handed over the dataset of the rows that are complete
by then, the columns wait for names as long as there is none, and it reads on as the reader that
keeps its rows. -/
theorem foldl_step_pass (kind : Separator) (header : Bool) (text : Text) :
    let complete := (State.read kind text).rows.reverse
    text.foldl (Pass.step kind) (.start header)
      = ⟨⟨.ofRows header complete, header && complete.isEmpty⟩, (State.read kind text).bared⟩ := by
  intro complete
  rw [← Intake.foldl_take_start]
  induction text using List.reverseRecOn with
  | nil => rfl
  | append_singleton before c ih =>
    have hstep : (State.read kind before).step kind c
        = ((State.read kind before).bared.step kind c).after (State.read kind before).rows := by
      rw [← State.step_after, State.bared_after]
    -- what is handed over now comes after what was handed over before
    rw [List.foldl_append, ih]
    simp [complete, hstep, Pass.step, Pass.handOver, State.after, State.bared]

/-- **One pass over the text** reads the dataset of all its rows. -/
theorem parseInPass_eq (text : Text) (kind : Separator) (header : Bool) :
    parseInPass text kind header = parse text kind header := by
  have hfinish : (State.read kind text).rows.reverse ++ (State.read kind text).bared.finish
      = rows kind text := by
    rw [← State.finish_after, State.bared_after]
    rfl
  rw [parseInPass, foldl_step_pass, Pass.finish, ← Intake.foldl_take_start, ← List.foldl_append,
    hfinish, Intake.foldl_take_start]
  rfl

/-- A row has at least one cell. -/
theorem ne_nil_of_mem_rows {kind : Separator} {text : Text} {row : Row} (h : row ∈ rows kind text) :
    row ≠ [] := by
  rw [State.rows_eq_rowsWith] at h
  obtain ⟨line, -, rfl⟩ := List.mem_map.mp h
  simp [rowOf, List.splitOn_ne_nil]

/-- **A header row moves the first row and nothing else.** Without one there are no headers; with
one, the first of these rows, if there is any, is lower-cased cell by cell to the headers, and the
others are the rows. There is a row unless the text is empty, and every row has a cell. Reading in
one pass that hands over each row when it is complete comes to the same. -/
theorem parse_header (text : Text) (kind : Separator) :
    let plain := parse text kind false
    let headed := parse text kind true
    plain.headers = [] ∧
      (plain.rows = [] → headed = ⟨[], []⟩) ∧
      (∀ first rest, plain.rows = first :: rest → headed = ⟨first.map Text.lower, rest⟩) ∧
      (plain.rows = [] ↔ text = []) ∧
      (∀ row ∈ plain.rows ++ headed.rows, row ≠ []) ∧
      ∀ header, parseInPass text kind header = parse text kind header := by
  intro plain headed
  have hplain : plain.rows = rows kind text := rfl
  have hheaded : headed = .ofRows true plain.rows := rfl
  have hempty : plain.rows = [] ↔ text = [] := by
    constructor
    · intro h
      by_contra hne
      exact rows_ne_nil kind hne h
    · rintro rfl
      rfl
  have hcells : ∀ row ∈ plain.rows, row ≠ [] := fun row h => ne_nil_of_mem_rows h
  have hkept : ∀ row ∈ headed.rows, row ∈ plain.rows := by
    rw [hheaded]
    cases plain.rows with
    | nil => exact fun row h => h
    | cons first rest => exact fun row h => List.mem_cons_of_mem first h
  refine ⟨rfl, ?_, ?_, hempty, ?_, parseInPass_eq text kind⟩
  · intro h
    rw [hheaded, h]
    rfl
  · intro first rest h
    rw [hheaded, h]
    rfl
  · intro row h
    rcases List.mem_append.mp h with h | h
    · exact hcells row h
    · exact hcells row (hkept row h)

/-- A line end in quotes does not end the row of the headers. -/
example : parseInPass ['"', 'N', '\n', '"', ',', '\r', '\n', 'x'] .comma true
    = ⟨[['n', '\n'], []], [[['x']]]⟩ := by
  decide

end Rowwise.Table
