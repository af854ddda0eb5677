import Rowwise.Proofs.Job.Agreement
import Rowwise.Proofs.Pattern.Grammar
import Rowwise.Proofs.Table.Writing

/-!
# Job — Projection

One job from end to end: a table written with every cell quoted, and a pattern of column numbers
with tabs between them. The main statement is that the job picks the cells of those columns, row by
row, whatever characters they hold, and counts the columns that a row does not have.

Each part of the program adds one fact. Reading gives the table back (`rows_of_written`); the
pattern is the source text of a canonical program, so it is compiled to that program
(`compile_columnsPattern`); a decimal number is a position (`cell?_digitsText`); and the program
renders a row to its chosen cells (`renderLine_columnsProgram`).
-/

namespace Rowwise.Job

open Rowwise.Pattern (Canonical NoConstruct)
open Rowwise.Program (source segmentSource)
open Rowwise.Prepared (prepareSegment prepareSegments renderNode renderNodes)

/-! ## The pattern -/

/-- The reference to the column of a number. -/
def columnPattern (column : Nat) : Text :=
  '$' :: '(' :: Number.digitsText column ++ [')']

/-- The references to some columns, with tabs between them. -/
def columnsPattern (columns : List Nat) : Text :=
  Text.join ['\t'] (columns.map columnPattern)

/-- The program of the references. -/
def columnsProgram : List Nat → Program
  | [] => []
  | [column] => [.column (Number.digitsText column)]
  | column :: next :: more =>
    .column (Number.digitsText column) :: .literal ['\t'] :: columnsProgram (next :: more)

theorem source_columnsProgram (columns : List Nat) :
    source (columnsProgram columns) = columnsPattern columns := by
  fun_induction columnsProgram columns with
  | case1 => rfl
  | case2 column => exact List.append_nil _
  | case3 column next more ih =>
    simp [source, segmentSource, ih, columnsPattern, columnPattern, Text.join]

theorem noConstruct_tab : NoConstruct ['\t'] := by
  intro before after construct body htext hopens
  obtain ⟨front, rfl, -⟩ := hopens.front
  have hparen : '(' ∈ ['\t'] := by
    rw [htext]
    simp
  exact absurd hparen (by decide)

theorem balanced_digitsText (n : Nat) : Text.Balanced (Number.digitsText n) := by
  apply Text.balanced_of_not_mem
  · intro h
    exact absurd (Number.isDigit_of_mem_digitsText h) (by decide)
  · intro h
    exact absurd (Number.isDigit_of_mem_digitsText h) (by decide)

/-- The literals are the tabs, and none of them touches another one. -/
theorem canonical_columnsProgram (columns : List Nat) : Canonical (columnsProgram columns) := by
  fun_induction columnsProgram columns with
  | case1 => exact .nil
  | case2 column => exact .column (balanced_digitsText column) .nil
  | case3 column next more ih =>
    refine .column (balanced_digitsText column) (.literal (by simp) noConstruct_tab ?_ ih)
    cases more with
    | nil => exact id
    | cons last more => exact id

theorem compile_columnsPattern (columns : List Nat) :
    Pattern.compile (columnsPattern columns) = columnsProgram columns := by
  rw [Pattern.compile, ← source_columnsProgram,
    Pattern.compileFrom_source (canonical_columnsProgram columns)]

theorem columnsPattern_ne_nil {columns : List Nat} (h : columns ≠ []) :
    columnsPattern columns ≠ [] := by
  obtain ⟨column, more, rfl⟩ := List.exists_cons_of_ne_nil h
  cases more with
  | nil => simp [columnsPattern, columnPattern, Text.join]
  | cons next more => simp [columnsPattern, columnPattern, Text.join]

/-! ## One row -/

section Row

variable {headers : List Text} {row : Row}

/-- A decimal number picks the cell at that position. -/
theorem cell?_digitsText (hlength : row.length ≤ Selector.positionBound) (column : Nat) :
    (Selector.ofText (Number.digitsText column)).cell? ⟨headers, row⟩ = row[column]? := by
  rw [Selector.ofText_digitsText, Selector.cell?, Selector.index?]
  by_cases hbound : column < Selector.positionBound
  · rw [if_pos hbound]
    rfl
  · rw [if_neg hbound, List.getElem?_eq_none (by omega)]
    rfl

/-- A reference is rendered as its cell, or counts as a substitution. -/
theorem renderNode_column (hlength : row.length ≤ Selector.positionBound) (column : Nat)
    (draws : Draws) :
    renderNode ⟨headers, row⟩ draws (prepareSegment (.column (Number.digitsText column))) =
      (⟨row.getD column errText, if row.length ≤ column then 1 else 0⟩, draws) := by
  rw [prepareSegment, renderNode, cell?_digitsText hlength, List.getD_eq_getElem?_getD]
  by_cases hcolumn : column < row.length
  · rw [List.getElem?_eq_getElem hcolumn, if_neg (by omega)]
    rfl
  · rw [List.getElem?_eq_none (by omega), if_pos (by omega)]
    rfl

theorem renderNodes_columnsProgram (hlength : row.length ≤ Selector.positionBound)
    (columns : List Nat) (draws : Draws) :
    renderNodes ⟨headers, row⟩ draws (prepareSegments (columnsProgram columns)) =
      (⟨Text.join ['\t'] (columns.map fun column => row.getD column errText),
        columns.countP (row.length ≤ ·)⟩, draws) := by
  fun_induction columnsProgram columns with
  | case1 => rfl
  | case2 column =>
    rw [prepareSegments, renderNodes, renderNode_column hlength]
    simp [prepareSegments, renderNodes, Rendered.append, Rendered.empty, Text.join,
      List.countP_cons]
  | case3 column next more ih =>
    rw [prepareSegments, renderNodes, renderNode_column hlength]
    dsimp only
    rw [prepareSegments, renderNodes, prepareSegment, renderNode]
    dsimp only
    rw [ih]
    simp [Rendered.append, Rendered.ok, Text.join, List.countP_cons]
    omega

end Row

/-! ## The job -/

theorem quotedText_ne_nil {table : List Row} (h : table ≠ []) : Table.quotedText table ≠ [] := by
  obtain ⟨row, more, rfl⟩ := List.exists_cons_of_ne_nil h
  simp [Table.quotedText]

/-- The missing cells, counted by rows or all at once. -/
theorem sum_countP_missing (table : List Row) (columns : List Nat) :
    (table.map fun row => columns.countP (row.length ≤ ·)).sum
      = (table.product columns).countP fun pair => pair.1.length ≤ pair.2 := by
  rw [List.product, List.countP_flatMap]
  congr 1
  refine List.map_congr_left fun row _ => ?_
  rw [Function.comp_apply, List.countP_map]
  rfl

/-- **Projecting columns.** The job for a table written with every cell quoted and for a pattern of
column numbers with tabs between them gives one line for each row: the cells at those numbers with
tabs between them, `ERR` for each number that is not below the length of the row, and the line
separator. What it counts as substitutions are the pairs of a row and a place in the pattern whose
column the row does not have. No character of a cell means anything on the way. Rows have no more
cells than there are positions. -/
theorem project_columns {table : List Row} {columns : List Nat} {cache : Option Cache}
    (htable : table ≠ [])
    (hrows : ∀ row ∈ table, row ≠ [] ∧ row.length ≤ Selector.positionBound)
    (hcolumns : columns ≠ []) (hcache : ∀ given ∈ cache, Reached given) (options : Options)
    (draws : Draws) :
    ∃ outcome,
      (run ⟨Table.quotedText table, columnsPattern columns, .comma, false⟩ options cache
        draws).outcome = some outcome ∧
      outcome.hasHeader = false ∧
      outcome.report.text = (table.flatMap fun row =>
        Text.join ['\t'] (columns.map fun column => row.getD column errText)
          ++ options.lineSeparator) ∧
      outcome.report.rows = table.length ∧
      outcome.report.substitutions
        = (table.product columns).countP fun pair => pair.1.length ≤ pair.2 := by
  have hcomplete : Request.isComplete
      ⟨Table.quotedText table, columnsPattern columns, .comma, false⟩ := by
    rw [isComplete_iff, not_or]
    exact ⟨quotedText_ne_nil htable, columnsPattern_ne_nil hcolumns⟩
  have hdata : Table.parse (Table.quotedText table) .comma false = ⟨[], table⟩ := by
    rw [Table.parse, Table.rows_of_written (Table.written_quotedText fun row hr => (hrows row hr).1)]
    rfl
  have hline : (Prepared.ofProgram (columnsProgram columns)).Steady [] table fun row =>
      ⟨Text.join ['\t'] (columns.map fun column => row.getD column errText),
        columns.countP (row.length ≤ ·)⟩ := by
    intro row hrow draws
    exact renderNodes_columnsProgram (hrows row hrow).2 columns draws
  rw [run_of_complete hcomplete,
    prepare_program fun _ given hgiven => (hcache given hgiven).faithful,
    compile_columnsPattern, execute_of_steady hdata hline]
  exact ⟨_, rfl, rfl, rfl, rfl, sum_countP_missing table columns⟩

/-- Two rows of different lengths, with a quote, a separator, a reference and a line feed in their
cells. -/
def raggedTable : List Row :=
  [[['a', '"', ',']], ["$(0)".toList, ['\n']]]

theorem project_columns_ragged :
    raggedTable ≠ [] ∧ (∀ row ∈ raggedTable, row ≠ [] ∧ row.length ≤ Selector.positionBound) ∧
      ∃ outcome,
        (run ⟨"\"a\"\",\"\n\"$(0)\",\"\n\"\n".toList, "$(1)\t$(0)".toList, .comma, false⟩ .default
          none ⟨id, 0⟩).outcome = some outcome ∧
        outcome.report.text = "ERR\ta\",\n\n\t$(0)\n".toList ∧ outcome.report.substitutions = 1 := by
  have htable : raggedTable ≠ [] := by decide
  have hrows : ∀ row ∈ raggedTable, row ≠ [] ∧ row.length ≤ Selector.positionBound := by decide
  obtain ⟨outcome, hrun, -, htext, -, hmissing⟩ :=
    @project_columns raggedTable [1, 0] none htable hrows (by decide) (by simp) .default ⟨id, 0⟩
  exact ⟨htable, hrows, outcome, hrun, htext, hmissing⟩

end Rowwise.Job
