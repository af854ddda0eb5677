import Rowwise.Proofs.Table.Steps

/-!
# Table — Writing

The comma-separated texts that stand for a table, as a relation: a table has many of them, since a
cell may be quoted without need and each row chooses how it ends. The main statement is that
reading any of them gives the table back.

The proof follows the reader through the text. After the text of a cell it holds that cell and is
outside quotes (`run_writtenCell`); after the text of a row it holds all its cells but the last
complete (`run_writtenRow`); and a row's terminator puts it at the start of the next row.
-/

namespace Rowwise.Table

/-- What ends a row. -/
inductive Terminator
  | lf
  | cr
  | crlf
  deriving DecidableEq

/-- The characters of a terminator. -/
def Terminator.text : Terminator → Text
  | .lf => ['\n']
  | .cr => ['\r']
  | .crlf => ['\r', '\n']

/-- The characters of a cell with every quote doubled. -/
def escape (cell : Text) : Text :=
  cell.flatMap fun c => if c = '"' then ['"', '"'] else [c]

/-- The cell between quotes. -/
def quoteCell (cell : Text) : Text :=
  '"' :: escape cell ++ ['"']

/-- A character that may stand in a cell without quotes. -/
def Plain (c : Char) : Prop :=
  c ≠ ',' ∧ c ≠ '"' ∧ c ≠ '\r' ∧ c ≠ '\n'

/-- The ways to write a cell. -/
inductive WrittenCell (cell : Text) : Text → Prop
  | quoted : WrittenCell cell (quoteCell cell)
  | raw (hplain : ∀ c ∈ cell, Plain c) : WrittenCell cell cell

/-- The ways to write a row, without what ends it. A row has at least one cell. -/
inductive WrittenRow : Row → Text → Prop
  | last {cell text : Text} (hcell : WrittenCell cell text) : WrittenRow [cell] text
  | more {cell text : Text} {row : Row} {rest : Text} (hcell : WrittenCell cell text)
      (hrow : WrittenRow row rest) : WrittenRow (cell :: row) (text ++ ',' :: rest)

/-- The ways to write a table. The last row may go without a terminator if anything is written for
it, and a lone carriage return does not stand before a line feed, which would make them one
terminator. -/
inductive Written : List Row → Text → Prop
  | nil : Written [] []
  | unended {row : Row} {text : Text} (hrow : WrittenRow row text) (hne : text ≠ []) :
      Written [row] text
  | ended {row : Row} {rows : List Row} {text rest : Text} (hrow : WrittenRow row text)
      (terminator : Terminator) (hrows : Written rows rest)
      (hseam : terminator = .cr → rest.head? ≠ some '\n') :
      Written (row :: rows) (text ++ terminator.text ++ rest)

/-- The plainest way to write a table: every cell quoted, every row ended by a line feed. -/
def quotedText (table : List Row) : Text :=
  table.flatMap fun row => Text.join [','] (row.map quoteCell) ++ ['\n']

theorem writtenRow_quoted {row : Row} (hne : row ≠ []) :
    WrittenRow row (Text.join [','] (row.map quoteCell)) := by
  induction row with
  | nil => exact absurd rfl hne
  | cons cell row ih =>
    cases row with
    | nil => exact .last .quoted
    | cons next row =>
      have hcell : WrittenCell cell (quoteCell cell) := .quoted
      simpa [Text.join] using WrittenRow.more hcell (ih (by simp))

/-- Every table of non-empty rows can be written. -/
theorem written_quotedText {table : List Row} (hne : ∀ row ∈ table, row ≠ []) :
    Written table (quotedText table) := by
  induction table with
  | nil => exact .nil
  | cons row table ih =>
    have hrow := writtenRow_quoted (hne row (by simp))
    exact .ended hrow .lf (ih fun row hr => hne row (by simp [hr])) (by simp)

namespace State

/-! ## Cells -/

theorem run_escape (cell : Text) {s : State} (hmode : s.mode = .quoted) :
    s.run (escape cell) = { s with cell := cell.reverse ++ s.cell } := by
  induction cell generalizing s with
  | nil => rfl
  | cons c cell ih =>
    obtain ⟨rows, row, read, mode⟩ := s
    subst hmode
    -- a doubled quote passes through `closing`, any other character stays in `quoted`
    have hstep : run ⟨rows, row, read, .quoted⟩ (if c = '"' then ['"', '"'] else [c])
        = ⟨rows, row, c :: read, .quoted⟩ := by
      by_cases hc : c = '"'
      · subst c
        rfl
      · rw [if_neg hc, run_cons, run_nil, step, if_neg hc]
        rfl
    rw [escape, List.flatMap_cons, run_append, hstep]
    exact (ih rfl).trans (by simp)

theorem run_plain {cell : Text} (hplain : ∀ c ∈ cell, Plain c) {s : State}
    (hmode : s.mode = .fresh ∨ s.mode = .bare) :
    s.run cell = { s with cell := cell.reverse ++ s.cell,
                          mode := if cell = [] then s.mode else .bare } := by
  induction cell generalizing s with
  | nil => rfl
  | cons c cell ih =>
    obtain ⟨hcomma, hquote, hreturn, hfeed⟩ := hplain c (by simp)
    have hstep : s.step .comma c = s.push c .bare := by
      rw [step_outside (by rcases hmode with h | h <;> simp [h, Mode.Outside]) hquote]
      simp [stepBare, Separator.char, hcomma, hquote, hreturn, hfeed]
    rw [run_cons, hstep, ih (fun d hd => hplain d (by simp [hd])) (.inr rfl)]
    simp [push]

/-- **The text of a cell**, read where a cell begins: its characters are read and no quote is
open. -/
theorem run_writtenCell {cell text : Text} (hcell : WrittenCell cell text) {s : State}
    (hread : s.cell = []) (hmode : s.mode = .fresh ∨ s.mode = .bare) :
    ∃ mode, s.run text = { s with cell := cell.reverse, mode } ∧ mode.Outside ∧
      (s.mode = .bare ∨ text ≠ [] → mode ≠ .fresh) := by
  cases hcell with
  | quoted =>
    have hopen : s.step .comma '"' = { s with mode := .quoted } := by
      rcases hmode with h | h <;> simp [step, h, stepBare, Separator.quotes]
    refine ⟨.closing, ?_, trivial, fun _ => by decide⟩
    rw [quoteCell, List.cons_append, run_cons, hopen, run_append, run_escape cell rfl]
    simp [step, hread]
  | raw hplain =>
    -- an empty raw cell is no character at all and leaves the mode as it was
    refine ⟨if cell = [] then s.mode else .bare, ?_, ?_, ?_⟩
    · rw [run_plain hplain hmode, hread, List.append_nil]
    · split
      · rcases hmode with h | h <;> simp [h, Mode.Outside]
      · trivial
    · intro hne
      split
      · rename_i hnil
        rcases hne with h | h
        · simp [h]
        · exact absurd hnil h
      · decide

/-! ## Rows -/

/-- **The text of a row**, read where the row begins or after some of its cells: its cells follow
those of the row so far, the last of them not complete yet. -/
theorem run_writtenRow {row : Row} {text : Text} (hrow : WrittenRow row text) {s : State}
    (hread : s.cell = []) (hmode : s.mode = .fresh ∨ s.mode = .bare) :
    ∃ cell before mode, s.run text = ⟨s.rows, before, cell, mode⟩ ∧
      (cell.reverse :: before).reverse = s.row.reverse ++ row ∧ mode.Outside ∧
      (s.mode = .bare ∨ text ≠ [] → mode ≠ .fresh) := by
  induction hrow generalizing s with
  | @last cell text hcell =>
    obtain ⟨mode, hrun, houtside, hfresh⟩ := run_writtenCell hcell hread hmode
    exact ⟨cell.reverse, s.row, mode, hrun, by simp, houtside, hfresh⟩
  | @more cell text row rest hcell _ ih =>
    obtain ⟨mode, hrun, houtside, -⟩ := run_writtenCell hcell hread hmode
    have hcomma : s.run (text ++ [',']) = ⟨s.rows, cell :: s.row, [], .bare⟩ := by
      rw [run_append, hrun, run_cons, run_nil, step_separator houtside]
      simp [endCell]
    -- after a comma the reader is in `bare`, so the row counts as begun whatever follows
    obtain ⟨last, before, mode', hrun', hcells, houtside', hfresh⟩ :=
      ih (s := ⟨s.rows, cell :: s.row, [], .bare⟩) rfl (.inr rfl)
    refine ⟨last, before, mode', ?_, ?_, houtside', fun _ => hfresh (.inl rfl)⟩
    · rw [List.append_cons, run_append, hcomma, hrun']
    · rw [hcells]
      simp

/-- **The text of a row with its terminator**: the reader is at the start of the next row. -/
theorem run_terminator {row : Row} {text : Text} (hrow : WrittenRow row text)
    (terminator : Terminator) (rows : List Row) :
    run ⟨rows, [], [], .fresh⟩ (text ++ terminator.text)
      = ⟨row :: rows, [], [], if terminator = .cr then .afterReturn else .fresh⟩ := by
  obtain ⟨cell, before, mode, hrun, hcells, houtside, -⟩ :=
    run_writtenRow hrow (s := ⟨rows, [], [], .fresh⟩) rfl (.inl rfl)
  rw [run_append, hrun]
  have hended : ∀ mode', endRow ⟨rows, before, cell, mode⟩ mode'
      = ⟨row :: rows, [], [], mode'⟩ := by
    intro mode'
    rw [endRow, hcells]
    rfl
  cases terminator with
  | lf => rw [Terminator.text, run_cons, step_lineFeed houtside, hended]; rfl
  | cr => rw [Terminator.text, run_cons, step_return houtside, hended]; rfl
  | crlf => rw [Terminator.text, run_cons, step_return houtside, hended]; rfl

/-! ## Tables -/

theorem finish_run_written {table : List Row} {text : Text} (h : Written table text)
    (rows : List Row) :
    (run ⟨rows, [], [], .fresh⟩ text).finish = rows.reverse ++ table := by
  induction h generalizing rows with
  | nil => exact (List.append_nil _).symm
  | @unended row text hrow hne =>
    obtain ⟨cell, before, mode, hrun, hcells, houtside, hfresh⟩ :=
      run_writtenRow hrow (s := ⟨rows, [], [], .fresh⟩) rfl (.inl rfl)
    have hended : (endRow ⟨rows, before, cell, mode⟩ .fresh).rows.reverse
        = rows.reverse ++ [row] := by
      rw [endRow, hcells]
      simp
    rw [hrun, ← hended]
    -- something was read, so the end of the text completes the row
    cases mode with
    | fresh => exact absurd rfl (hfresh (.inr hne))
    | afterReturn | quoted => exact houtside.elim
    | bare | closing => rfl
  | @ended row others text rest hrow terminator _ hseam ih =>
    have hrest : (run ⟨row :: rows, [], [], if terminator = .cr then .afterReturn else .fresh⟩
        rest).finish = (run ⟨row :: rows, [], [], .fresh⟩ rest).finish := by
      split
      · rename_i hcr
        exact finish_run_afterReturn _ (hseam hcr)
      · rfl
    rw [run_append, run_terminator hrow, hrest, ih]
    simp

end State

theorem rows_of_written {table : List Row} {text : Text} (h : Written table text) :
    rows .comma text = table :=
  State.finish_run_written h []

/-- **Reading gives back what was written**, however it was written: without a header row the
table itself, with one the first row in lower case as names and the other rows. -/
theorem parse_of_written {table : List Row} {text : Text} (h : Written table text) :
    parse text .comma false = ⟨[], table⟩ ∧
      ∀ names others, table = names :: others →
        parse text .comma true = ⟨names.map Text.lower, others⟩ := by
  refine ⟨?_, ?_⟩
  · rw [parse, rows_of_written h]
    rfl
  · intro names others htable
    rw [parse, rows_of_written h, htable]
    rfl

/-- A comma between quotes, an empty cell before a lone carriage return, and a last row of one
doubled quote that nothing ends. -/
theorem parse_of_written_mixed :
    Written [[['N', ','], []], [['"']]] ['"', 'N', ',', '"', ',', '\r', '"', '"', '"', '"'] ∧
      parse ['"', 'N', ',', '"', ',', '\r', '"', '"', '"', '"'] .comma false
        = ⟨[], [[['N', ','], []], [['"']]]⟩ ∧
      parse ['"', 'N', ',', '"', ',', '\r', '"', '"', '"', '"'] .comma true
        = ⟨[['n', ','], []], [[['"']]]⟩ := by
  have h : Written [[['N', ','], []], [['"']]]
      ['"', 'N', ',', '"', ',', '\r', '"', '"', '"', '"'] :=
    .ended (.more .quoted (.last (.raw (by simp)))) .cr (.unended (.last .quoted) (by simp))
      (by simp)
  exact ⟨h, (parse_of_written h).1, (parse_of_written h).2 _ _ rfl⟩

end Rowwise.Table
