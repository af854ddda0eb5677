import Rowwise.Proofs.Job.Projection
import Rowwise.Proofs.Pattern.Selection
import Rowwise.Proofs.Text.LowerCase

/-!
# Job — Header

One job from end to end, with a header row: the table is written with every cell quoted, and the
pattern is a reference to a column by its name. The main statement is that the job picks the first
column whose header, as it was written, has the same lower-case form as the name.

The job lower-cases a header when it reads the table and again when it compares it, and the name
once. That all this comes to one comparison of lower-case forms (`names_lower`) is a matter of
lower-casing being done with once (`Text.lower_lower`).
-/

namespace Rowwise

namespace Selector

/-! ## Looking a name up -/

/-- The first column whose header is the name but for case. -/
def columnOf? (headers : List Text) (name : Text) : Option Nat :=
  headers.findIdx? fun header => Text.lower header = Text.lower name

theorem columnOf?_eq_some_iff {headers : List Text} {name : Text} {column : Nat} :
    columnOf? headers name = some column ↔
      ∃ h : column < headers.length, Text.lower headers[column] = Text.lower name ∧
        ∀ (earlier : Nat) (he : earlier < column),
          Text.lower headers[earlier] ≠ Text.lower name := by
  simp [columnOf?, List.findIdx?_eq_some_iff_getElem]

/-- **A header that is lower-cased already** has a lower-cased name exactly if the two were the
same but for case before. -/
theorem names_lower (name header : Text) :
    names (Text.lower name) (Text.lower header) = decide (Text.lower header = Text.lower name) := by
  rw [names, Text.lower_lower, Bool.or_self, Bool.beq_eq_decide_eq]

theorem index?_of_not_isNumber {name : Text} (h : ¬ IsNumber name) (headers : List Text) :
    (ofText name).index? (headers.map Text.lower) = columnOf? headers name := by
  rw [ofText_of_not_isNumber h, index?, List.findIdx?_map, columnOf?]
  congr 1
  funext header
  exact names_lower name header

end Selector

namespace Job

open Rowwise.Pattern (Canonical)
open Rowwise.Selector (IsNumber columnOf?)

/-! ## The pattern -/

/-- The reference to the column of a name. -/
def headerPattern (name : Text) : Text :=
  '$' :: '(' :: name ++ [')']

theorem compile_headerPattern {name : Text} (h : Text.Balanced name) :
    Pattern.compile (headerPattern name) = [.column name] := by
  have hcanonical : Canonical [.column name] := .column h .nil
  have hsource : headerPattern name = Program.source [.column name] := by
    simp [headerPattern, Program.source, Program.segmentSource]
  rw [Pattern.compile, hsource, Pattern.compileFrom_source hcanonical]

/-! ## One row -/

/-- The cell of the column of a name, if there is such a column and the row reaches it. -/
def cellOf? (headers : List Text) (name : Text) (row : Row) : Option Text :=
  (columnOf? headers name).bind (row[·]?)

theorem renderLine_header {name : Text} (h : ¬ IsNumber name) (headers : List Text) (row : Row)
    (draws : Draws) :
    (Prepared.ofProgram [.column name]).renderLine ⟨headers.map Text.lower, row⟩ draws =
      (⟨(cellOf? headers name row).getD errText,
        if (cellOf? headers name row).isNone then 1 else 0⟩, draws) := by
  have hcell : (Selector.ofText name).cell? ⟨headers.map Text.lower, row⟩
      = cellOf? headers name row := by
    rw [Selector.cell?, Selector.index?_of_not_isNumber h, cellOf?]
  rw [Prepared.renderLine_column, hcell]
  cases cellOf? headers name row with
  | some cell => rfl
  | none => rfl

/-! ## The job -/

/-- The request for a table with a header row and the column of a name. -/
def headerRequest (headers : Row) (table : List Row) (name : Text) : Request :=
  ⟨Table.quotedText (headers :: table), headerPattern name, .comma, true⟩

/-- The job for a name renders the cells of its column. -/
theorem run_headerRequest {headers : Row} {table : List Row} {name : Text} {cache : Option Cache}
    (hheaders : headers ≠ []) (hrows : ∀ row ∈ table, row ≠ []) (hbalanced : Text.Balanced name)
    (hname : ¬ IsNumber name) (hcache : ∀ given ∈ cache, Reached given) (options : Options)
    (draws : Draws) :
    ∃ outcome,
      (run (headerRequest headers table name) options cache draws).outcome = some outcome ∧
      outcome.hasHeader = true ∧
      outcome.report.text = table.flatMap fun row =>
        (cellOf? headers name row).getD errText ++ options.lineSeparator := by
  have hcomplete : (headerRequest headers table name).isComplete := by
    rw [isComplete_iff, not_or]
    exact ⟨quotedText_ne_nil (by simp), by simp [headerRequest, headerPattern]⟩
  have hwritten : Table.rows .comma (Table.quotedText (headers :: table)) = headers :: table := by
    refine Table.rows_of_written (Table.written_quotedText ?_)
    simpa [hheaders] using hrows
  have hdata : Table.parse (Table.quotedText (headers :: table)) .comma true
      = ⟨headers.map Text.lower, table⟩ := by
    rw [Table.parse, hwritten]
    rfl
  have hline : (Prepared.ofProgram [.column name]).Steady (headers.map Text.lower) table fun row =>
      ⟨(cellOf? headers name row).getD errText,
        if (cellOf? headers name row).isNone then 1 else 0⟩ := by
    intro row _ draws
    exact renderLine_header hname headers row draws
  rw [run_of_complete hcomplete,
    prepare_program fun _ given hgiven => (hcache given hgiven).faithful]
  dsimp only [headerRequest]
  rw [compile_headerPattern hbalanced, execute_of_steady hdata hline]
  exact ⟨_, rfl, rfl, rfl⟩

/-- **Selecting a column by its header.** The job for a table written with every cell quoted, its
first row taken as headers, and for a reference to a name renders for each data row the cell of the
first column whose header has the lower-case form of the name, and `ERR` if there is no such column
or the row does not reach it; the line separator follows. So two names with one lower-case form
render the same text, and a column whose header differs from the name but for case is never chosen.
Names are the selectors that are no numbers. -/
theorem select_header {headers : Row} {table : List Row} {name : Text} {cache : Option Cache}
    (hheaders : headers ≠ []) (hrows : ∀ row ∈ table, row ≠ []) (hbalanced : Text.Balanced name)
    (hname : ¬ IsNumber name) (hcache : ∀ given ∈ cache, Reached given) (options : Options)
    (draws : Draws) :
    ∃ outcome,
      (run (headerRequest headers table name) options cache draws).outcome = some outcome ∧
      outcome.hasHeader = true ∧
      outcome.report.text = (table.flatMap fun row =>
        ((columnOf? headers name).bind (row[·]?)).getD errText ++ options.lineSeparator) ∧
      (∀ column, columnOf? headers name = some column ↔
        ∃ h : column < headers.length, Text.lower headers[column] = Text.lower name ∧
          ∀ (earlier : Nat) (he : earlier < column),
            Text.lower headers[earlier] ≠ Text.lower name) ∧
      (∀ other draws', Text.Balanced other → ¬ IsNumber other →
        Text.lower other = Text.lower name →
          (run (headerRequest headers table other) options cache draws').outcome.map
            (·.report.text) = some outcome.report.text) := by
  obtain ⟨outcome, hrun, hheader, htext⟩ :=
    run_headerRequest hheaders hrows hbalanced hname hcache options draws
  refine ⟨outcome, hrun, hheader, htext, fun column => Selector.columnOf?_eq_some_iff, ?_⟩
  intro other draws' hbalanced' hname' hsame
  obtain ⟨outcome', hrun', -, htext'⟩ :=
    run_headerRequest hheaders hrows hbalanced' hname' hcache options draws'
  have hcolumn : columnOf? headers other = columnOf? headers name := by
    rw [columnOf?, columnOf?, hsame]
  rw [hrun', Option.map_some, htext, htext']
  simp only [cellOf?, hcolumn]

/-- Three headers that differ in case and in the form of the last sigma. -/
def sigmaHeaders : Row :=
  ["i̇δοσ".toList, "i̇Δος".toList, "İΔΟΣ".toList]

/-- The dotted capital becomes two characters and the sigma at the end its final form, so the first
header is another name; the second row does not reach the second column. -/
theorem select_header_sigma :
    sigmaHeaders ≠ [] ∧ Text.Balanced "İΔΟΣ".toList ∧ ¬ IsNumber "İΔΟΣ".toList ∧
      ∃ outcome,
        (run (headerRequest sigmaHeaders [["1".toList, "2".toList, "3".toList], ["4".toList]]
          "İΔΟΣ".toList) .default none ⟨id, 0⟩).outcome = some outcome ∧
        outcome.report.text = "2\nERR\n".toList := by
  have hbalanced : Text.Balanced "İΔΟΣ".toList :=
    Text.balanced_of_not_mem (by decide) (by decide)
  have hname : ¬ IsNumber "İΔΟΣ".toList := by
    rintro ⟨digits, -, hdigits, h | h | h⟩
    · exact absurd (hdigits 'İ' (by simp [← h])) (by decide)
    · cases h
    · cases h
  have hheaders : sigmaHeaders ≠ [] := by decide
  have hrows : ∀ row ∈ [["1".toList, "2".toList, "3".toList], ["4".toList]], row ≠ [] := by decide
  have hcache : ∀ given ∈ (none : Option Cache), Reached given := by simp
  obtain ⟨outcome, hrun, -, htext, -⟩ :=
    select_header hheaders hrows hbalanced hname hcache .default ⟨id, 0⟩
  refine ⟨hheaders, hbalanced, hname, outcome, hrun, ?_⟩
  rw [htext]
  decide +kernel

end Job

end Rowwise
