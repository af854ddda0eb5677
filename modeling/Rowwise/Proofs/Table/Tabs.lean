import Rowwise.Proofs.Table.Newlines

/-!
# Table — Tabs

Tab-separated text knows no quotes, so it has one way to write a table (`tabText`): tabs between the
cells of a row, a line feed after it. The main statement is that reading and writing undo each other,
as far as line ends can tell: writing what was read gives the text with a line feed for every line
end, the last line's included, and reading what was written gives the table.

No quote closes a position, so reading is splitting: the text into lines, and each line at its tabs.
Joining undoes a split at a tab for every line (`join_rowOf`), and splitting undoes a join if no cell
holds a tab (`rowOf_opened_join`). That leaves the lines: each of them with a line feed after it is
the text with its line ends unified (`written_lines`).
-/

namespace Rowwise

namespace Text

/-! ## Joined texts -/

theorem join_eq_intercalate (separator : Text) (texts : List Text) :
    Text.join separator texts = separator.intercalate texts := by
  fun_induction Text.join separator texts with
  | case1 => simp
  | case2 text => simp
  | case3 text more hmore ih =>
    obtain ⟨next, more, rfl⟩ := List.exists_cons_of_ne_nil hmore
    rw [ih, List.intercalate_cons_cons]

theorem mem_join {separator : Text} {texts : List Text} {c : Char}
    (h : c ∈ Text.join separator texts) : c ∈ separator ∨ ∃ text ∈ texts, c ∈ text := by
  fun_induction Text.join separator texts with
  | case1 => cases h
  | case2 text => exact .inr ⟨text, by simp, h⟩
  | case3 text more _ ih =>
    simp only [List.mem_append] at h
    rcases h with (h | h) | h
    · exact .inr ⟨text, by simp, h⟩
    · exact .inl h
    · rcases ih h with h | ⟨other, hother, h⟩
      · exact .inl h
      · exact .inr ⟨other, by simp [hother], h⟩

end Text

namespace Table

open Rowwise.Text (join_eq_intercalate mem_join)

/-- The tab-separated text of a table. -/
def tabText (table : List Row) : Text :=
  table.flatMap fun row => Text.join ['\t'] row ++ ['\n']

/-- A character that a cell between tabs and line ends can hold. -/
def Unbroken (c : Char) : Prop :=
  c ≠ '\t' ∧ c ≠ '\r' ∧ c ≠ '\n'

/-! ## Cells -/

/-- The characters of a text, each at an open position. -/
def opened (text : Text) : List Mark :=
  text.map (·, true)

/-- Quotes do not count in tab-separated text. -/
theorem marks_tab (text : Text) : marks .tab true text = opened text := by
  induction text with
  | nil => rfl
  | cons c text ih =>
    rw [marks]
    simpa [openNext, Separator.quotes, opened] using ih

theorem rows_tab (text : Text) :
    rows .tab text = (dropEmptyLast (lines (opened text))).map (rowOf .tab) := by
  rw [State.rows_eq_rowsWith, marks_tab]
  rfl

theorem map_intercalate {α β : Type} (f : α → β) (separator : List α) (pieces : List (List α)) :
    (separator.intercalate pieces).map f
      = (separator.map f).intercalate (pieces.map (List.map f)) := by
  induction pieces with
  | nil => simp
  | cons piece pieces ih =>
    cases pieces with
    | nil => simp
    | cons next pieces =>
      simp only [List.map_cons, List.intercalate_cons_cons] at ih ⊢
      simp [ih]

/-- **Joining undoes the split at tabs.** -/
theorem join_rowOf (line : List Mark) : Text.join ['\t'] (rowOf .tab line) = line.map Prod.fst := by
  have hcells : rowOf .tab line = (line.splitOn ('\t', true)).map (List.map Prod.fst) := rfl
  have hjoin := map_intercalate Prod.fst [('\t', true)] (line.splitOn ('\t', true))
  rw [List.intercalate_splitOn] at hjoin
  rw [join_eq_intercalate, hcells, hjoin]
  rfl

/-- **Splitting undoes the join** of cells without tabs. -/
theorem rowOf_opened_join {row : Row} (hne : row ≠ []) (hcells : ∀ cell ∈ row, '\t' ∉ cell) :
    rowOf .tab (opened (Text.join ['\t'] row)) = row := by
  have hopened : opened (Text.join ['\t'] row)
      = [('\t', true)].intercalate (row.map opened) := by
    rw [join_eq_intercalate]
    exact map_intercalate (·, true) ['\t'] row
  have hsplit : (opened (Text.join ['\t'] row)).splitOn ('\t', true) = row.map opened := by
    rw [hopened]
    refine List.splitOn_intercalate ('\t', true) ?_ (by simpa using hne)
    intro raw hraw
    obtain ⟨cell, hcell, rfl⟩ := List.mem_map.mp hraw
    simpa [opened] using hcells cell hcell
  have hcell : ∀ cell, cellOf .tab (opened cell) = cell := by
    intro cell
    simp [cellOf, Separator.quotes, opened, Function.comp_def]
  rw [rowOf, Separator.char, hsplit, List.map_map]
  simp [Function.comp_def, hcell]

/-! ## Lines -/

/-- The line feed that a last line without terminator lacks. -/
def lastFeed (text : Text) : Text :=
  if text ≠ [] ∧ text.getLast? ≠ some '\r' ∧ text.getLast? ≠ some '\n' then ['\n'] else []

theorem lastFeed_cons_cons (c d : Char) (text : Text) :
    lastFeed (c :: d :: text) = lastFeed (d :: text) := by
  simp [lastFeed, List.getLast?_cons_cons]

theorem lastFeed_terminator {c : Char} (hc : c = '\r' ∨ c = '\n') (text : Text) :
    lastFeed (c :: text) = lastFeed text := by
  cases text with
  | nil => rcases hc with rfl | rfl <;> rfl
  | cons d text => exact lastFeed_cons_cons c d text

/-- Lines with a line feed after each. -/
def linesText (lines : List (List Mark)) : Text :=
  lines.flatMap fun line => line.map Prod.fst ++ ['\n']

/-- An empty line in front is a line feed in front. -/
theorem linesText_nil_cons (ahead : List Mark) :
    linesText (dropEmptyLast ([] :: lines ahead)) = '\n' :: linesText (dropEmptyLast (lines ahead)) := by
  have hne : [] :: lines ahead ≠ [[]] := by simp [lines_ne_nil]
  rw [dropEmptyLast_cons hne]
  rfl

theorem lines_opened_return {text : Text} (h : text.head? ≠ some '\n') :
    lines (opened ('\r' :: text)) = [] :: lines (opened text) := by
  cases text with
  | nil => rfl
  | cons c text =>
    have hc : (c, true) ≠ ('\n', true) := by simpa using h
    exact lines_return hc (opened text)

/-- A character in front of some line. -/
theorem linesText_modifyHead (c : Char) (mark : Mark) (ahead : List Mark) :
    linesText (dropEmptyLast ((lines (mark :: ahead)).modifyHead ((c, true) :: ·)))
      = c :: linesText (dropEmptyLast (lines (mark :: ahead))) := by
  obtain ⟨line, more, hlines⟩ := exists_lines (mark :: ahead)
  have hne := lines_cons_ne mark ahead
  rw [hlines] at hne ⊢
  rw [List.modifyHead_cons, dropEmptyLast_cons (by simp), dropEmptyLast_cons hne]
  rfl

/-- **The lines of a text, written again**: the text with its line ends unified, and with one at its
end. -/
theorem linesText_lines (text : Text) :
    linesText (dropEmptyLast (lines (opened text))) = unifyNewlines text ++ lastFeed text := by
  fun_induction unifyNewlines text with
  | case1 => rfl
  | case2 rest ih =>
    have hlines : lines (opened ('\r' :: '\n' :: rest)) = [] :: lines (opened rest) :=
      lines_return_lineFeed (opened rest)
    rw [hlines, linesText_nil_cons, ih, lastFeed_terminator (.inl rfl),
      lastFeed_terminator (.inr rfl), List.cons_append]
  | case3 rest hfeed ih =>
    have hhead : rest.head? ≠ some '\n' := by
      intro h
      obtain ⟨more, rfl⟩ := List.head?_eq_some_iff.mp h
      exact hfeed more rfl
    rw [lines_opened_return hhead, linesText_nil_cons, ih, lastFeed_terminator (.inl rfl),
      List.cons_append]
  | case4 c rest _ hother ih =>
    have hreturn : c ≠ '\r' := hother
    by_cases hfeed : c = '\n'
    · subst hfeed
      have hlines : lines (opened ('\n' :: rest)) = [] :: lines (opened rest) :=
        lines_lineFeed (opened rest)
      rw [hlines, linesText_nil_cons, ih, lastFeed_terminator (.inr rfl), List.cons_append]
    · have hlines : lines (opened (c :: rest)) = (lines (opened rest)).modifyHead ((c, true) :: ·) :=
        lines_cons (by simpa using hfeed) (by simpa using hreturn) (opened rest)
      rw [hlines]
      cases rest with
      | nil =>
        -- the last line, which nothing ends
        simp [opened, lines, dropEmptyLast, linesText, unifyNewlines, lastFeed, hfeed, hreturn]
      | cons d rest =>
        rw [List.cons_append, lastFeed_cons_cons, ← ih]
        exact linesText_modifyHead c (d, true) (opened rest)

/-- A text in which no line ends is one line. -/
theorem lines_line {text : Text} (h : ∀ c ∈ text, c ≠ '\r' ∧ c ≠ '\n') :
    lines (opened (text ++ ['\n'])) = [opened text, []] := by
  induction text with
  | nil => rfl
  | cons c text ih =>
    obtain ⟨hreturn, hfeed⟩ := h c (by simp)
    have hrest := ih fun d hd => h d (by simp [hd])
    have hlines : lines (opened (c :: text ++ ['\n']))
        = (lines (opened (text ++ ['\n']))).modifyHead ((c, true) :: ·) :=
      lines_cons (by simpa using hfeed) (by simpa using hreturn) _
    rw [hlines, hrest]
    rfl

/-! ## Tables -/

/-- Writing the table that was read. -/
theorem tabText_rows (text : Text) :
    tabText (rows .tab text) = unifyNewlines text ++ lastFeed text := by
  rw [← linesText_lines, rows_tab, tabText, linesText, List.flatMap_map]
  simp only [join_rowOf]

/-- Reading one row that was written. -/
theorem rows_tab_row {row : Row} (hne : row ≠ [])
    (hcells : ∀ cell ∈ row, ∀ c ∈ cell, Unbroken c) :
    rows .tab (Text.join ['\t'] row ++ ['\n']) = [row] := by
  have hline : ∀ c ∈ Text.join ['\t'] row, c ≠ '\r' ∧ c ≠ '\n' := by
    intro c hc
    rcases mem_join hc with htab | ⟨cell, hcell, hmem⟩
    · obtain rfl : c = '\t' := by simpa using htab
      decide
    · exact (hcells cell hcell c hmem).2
  have hlast : dropEmptyLast [opened (Text.join ['\t'] row), []]
      = [opened (Text.join ['\t'] row)] := rfl
  rw [rows_tab, lines_line hline, hlast, List.map_singleton,
    rowOf_opened_join hne fun cell hcell htab => (hcells cell hcell '\t' htab).1 rfl]

/-- Reading a table that was written. -/
theorem rows_tabText {table : List Row} (hne : ∀ row ∈ table, row ≠ [])
    (hcells : ∀ row ∈ table, ∀ cell ∈ row, ∀ c ∈ cell, Unbroken c) :
    rows .tab (tabText table) = table := by
  induction table with
  | nil => rfl
  | cons row table ih =>
    have hrow := rows_tab_row (hne row (by simp)) (hcells row (by simp))
    have hrest := ih (fun row hr => hne row (by simp [hr])) fun row hr => hcells row (by simp [hr])
    have hlast : (Text.join ['\t'] row ++ ['\n']).getLast? = some '\n' := by simp
    calc rows .tab (tabText (row :: table))
        = rows .tab ((Text.join ['\t'] row ++ ['\n']) ++ tabText table) := rfl
      _ = rows .tab (Text.join ['\t'] row ++ ['\n']) ++ rows .tab (tabText table) :=
          rows_append (.inr hlast) rfl (by simp [hlast])
      _ = row :: table := by rw [hrow, hrest, List.singleton_append]

/-- **Tab-separated text loses nothing.** Writing the table of a text gives the text with a line feed
for every line end, and one more if the last line had none. Conversely, a table of non-empty rows
whose cells hold no tab and no line end is read back from its text. -/
theorem tab_lossless :
    (∀ text, tabText (parse text .tab false).rows = unifyNewlines text ++ lastFeed text) ∧
      ∀ table : List Row, (∀ row ∈ table, row ≠ []) →
        (∀ row ∈ table, ∀ cell ∈ row, ∀ c ∈ cell, Unbroken c) →
        parse (tabText table) .tab false = ⟨[], table⟩ := by
  refine ⟨tabText_rows, fun table hne hcells => ?_⟩
  rw [parse, rows_tabText hne hcells]
  rfl

/-- A quote, an empty cell at the end of a row, and a row that is one empty cell. -/
theorem tab_lossless_blank :
    let table : List Row := [[['"'], []], [[]], [['a', ',', 'b']]]
    (∀ row ∈ table, row ≠ []) ∧ (∀ row ∈ table, ∀ cell ∈ row, ∀ c ∈ cell, Unbroken c) ∧
      tabText table = ['"', '\t', '\n', '\n', 'a', ',', 'b', '\n'] ∧
      parse ['"', '\t', '\n', '\n', 'a', ',', 'b', '\n'] .tab false = ⟨[], table⟩ ∧
      tabText (parse ['\r', '\n', '\r', '"'] .tab false).rows = ['\n', '\n', '"', '\n'] := by
  intro table
  have hne : ∀ row ∈ table, row ≠ [] := by decide
  have hcells : ∀ row ∈ table, ∀ cell ∈ row, ∀ c ∈ cell, Unbroken c := by
    simp [table, Unbroken]
  exact ⟨hne, hcells, by decide, tab_lossless.2 table hne hcells,
    (tab_lossless.1 ['\r', '\n', '\r', '"']).trans (by decide)⟩

end Table

end Rowwise
