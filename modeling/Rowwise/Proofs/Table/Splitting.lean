import Rowwise.Table.Reader

/-!
# Table — Splitting

What a text means as a table, said without a machine: cut it where no quote is open, first into
lines and then into cells, and take the quotes out of each cell by itself. Whether a quote is open
at a position is a matter of all the text before it, of which an odd number of quotes leaves one
open. The main statement is that the reader, which goes through the text once, finds the same
table.

The proof says what a state of the reader still makes of the text ahead (`State.rowsWith`), each
look-ahead being a character that the state has seen but not yet used up. One character leaves
those rows as they are (`rowsWith_step`); at the end of the text they are the rows that the reader
gives.
-/

namespace Rowwise.Table

/-! ## The table by splitting -/

/-- Whether no quote is open after some text. -/
def openAfter (kind : Separator) (before : Text) : Bool :=
  kind == .tab || before.count '"' % 2 == 0

/-- A character and whether its position is open. -/
abbrev Mark := Char × Bool

/-- The characters of a text, each with whether its position is open. -/
def marked (kind : Separator) (text : Text) : List Mark :=
  text.mapIdx fun i c => (c, openAfter kind (text.take i))

/-- The lines between open terminators, of which a carriage return with a line feed after it is
one. There is a line after the last terminator too. -/
def lines : List Mark → List (List Mark)
  | [] => [[]]
  | ('\r', true) :: ('\n', true) :: rest => [] :: lines rest
  | ('\r', true) :: rest | ('\n', true) :: rest => [] :: lines rest
  | mark :: rest => (lines rest).modifyHead (mark :: ·)

/-- The lines without the last one if that is empty. -/
def dropEmptyLast (lines : List (List Mark)) : List (List Mark) :=
  if lines.getLast? = some [] then lines.dropLast else lines

/-- The characters of a raw cell without its quotes. Each quote begins or ends quoting, except
that two of them inside quotes are a character of the cell. -/
def unquote : (quoted : Bool) → Text → Text
  | _, [] => []
  | true, '"' :: '"' :: rest => '"' :: unquote true rest
  | quoted, '"' :: rest => unquote (!quoted) rest
  | quoted, c :: rest => c :: unquote quoted rest

/-- What a raw cell holds. -/
def cellOf (kind : Separator) (raw : List Mark) : Text :=
  let text := raw.map Prod.fst
  if kind.quotes then unquote false text else text

/-- The cells of a line, between open separators. -/
def rowOf (kind : Separator) (line : List Mark) : Row :=
  (line.splitOn (kind.char, true)).map (cellOf kind)

/-- The rows of a text by splitting it twice. -/
def splitRows (kind : Separator) (text : Text) : List Row :=
  (dropEmptyLast (lines (marked kind text))).map (rowOf kind)

/-! ## Marks from left to right -/

/-- Whether a position is open when the character before it stands at `position`. -/
def openNext (kind : Separator) (c : Char) (position : Bool) : Bool :=
  if kind.quotes && c = '"' then !position else position

/-- The characters of a text, the first of which stands at `position`. -/
def marks (kind : Separator) (position : Bool) : Text → List Mark
  | [] => []
  | c :: text => (c, position) :: marks kind (openNext kind c position) text

theorem openAfter_concat (kind : Separator) (before : Text) (c : Char) :
    openAfter kind (before ++ [c]) = openNext kind c (openAfter kind before) := by
  cases kind with
  | tab => rfl
  | comma =>
    by_cases hc : c = '"'
    · subst hc
      simp only [openAfter, openNext, List.count_append, List.count_singleton_self]
      have := Nat.mod_two_eq_zero_or_one (before.count '"')
      rcases this with h | h <;> simp [h, Nat.add_mod, Separator.quotes]
    · simp [openAfter, openNext, List.count_append, hc, Separator.quotes]

theorem mapIdx_marks (kind : Separator) (before text : Text) :
    (text.mapIdx fun i c => (c, openAfter kind (before ++ text.take i)))
      = marks kind (openAfter kind before) text := by
  induction text generalizing before with
  | nil => rfl
  | cons c text ih =>
    rw [List.mapIdx_cons, marks, ← openAfter_concat, ← ih]
    simp

/-- Counting quotes and toggling at each of them find the same open positions. -/
theorem marked_eq_marks (kind : Separator) (text : Text) :
    marked kind text = marks kind true text := by
  have h := mapIdx_marks kind [] text
  have hstart : openAfter kind [] = true := by cases kind <;> rfl
  rw [hstart] at h
  exact h

/-! ## Lines and cells from left to right -/

theorem lines_lineFeed (ahead : List Mark) : lines (('\n', true) :: ahead) = [] :: lines ahead := by
  simp [lines]

theorem lines_return_lineFeed (ahead : List Mark) :
    lines (('\r', true) :: ('\n', true) :: ahead) = [] :: lines ahead := by
  simp [lines]

theorem lines_return {mark : Mark} (h : mark ≠ ('\n', true)) (ahead : List Mark) :
    lines (('\r', true) :: mark :: ahead) = [] :: lines (mark :: ahead) := by
  rw [lines]
  intro rest hmark
  exact h (List.cons.inj hmark).1

/-- A carriage return ends a line, whether or not it takes a line feed with it. -/
theorem exists_lines_return (ahead : List Mark) :
    ∃ rest, lines (('\r', true) :: ahead) = [] :: lines rest := by
  cases ahead with
  | nil => exact ⟨[], rfl⟩
  | cons mark ahead =>
    by_cases h : mark = ('\n', true)
    · subst h
      exact ⟨ahead, lines_return_lineFeed ahead⟩
    · exact ⟨mark :: ahead, lines_return h ahead⟩

/-- A character that ends no line belongs to the first one. -/
theorem lines_cons {mark : Mark} (hfeed : mark ≠ ('\n', true)) (hreturn : mark ≠ ('\r', true))
    (ahead : List Mark) : lines (mark :: ahead) = (lines ahead).modifyHead (mark :: ·) := by
  rw [lines]
  · rintro rest rfl
    exact absurd rfl hreturn
  · rintro rfl
    exact absurd rfl hreturn
  · rintro rfl
    exact absurd rfl hfeed

theorem lines_ne_nil (ahead : List Mark) : lines ahead ≠ [] := by
  fun_induction lines ahead with
  | case1 | case2 | case3 | case4 => simp
  | case5 mark ahead _ _ _ ih => simpa using ih

theorem exists_lines (ahead : List Mark) : ∃ line more, lines ahead = line :: more :=
  List.exists_cons_of_ne_nil (lines_ne_nil ahead)

theorem exists_cells (kind : Separator) (line : List Mark) :
    ∃ cell cells, line.splitOn (kind.char, true) = cell :: cells :=
  List.exists_cons_of_ne_nil (List.splitOn_ne_nil (kind.char, true) line)

/-- Where something is left to read, there is more than one empty line. -/
theorem lines_cons_ne (mark : Mark) (ahead : List Mark) : lines (mark :: ahead) ≠ [[]] := by
  by_cases hfeed : mark = ('\n', true)
  · subst hfeed
    simp [lines_lineFeed, lines_ne_nil]
  by_cases hreturn : mark = ('\r', true)
  · subst hreturn
    obtain ⟨rest, hrest⟩ := exists_lines_return ahead
    simp [hrest, lines_ne_nil]
  obtain ⟨line, more, hlines⟩ := exists_lines ahead
  simp [lines_cons hfeed hreturn, hlines]

theorem dropEmptyLast_cons {line : List Mark} {more : List (List Mark)}
    (h : line :: more ≠ [[]]) : dropEmptyLast (line :: more) = line :: dropEmptyLast more := by
  cases more with
  | nil =>
    have hline : line ≠ [] := by simpa using h
    simp [dropEmptyLast, hline]
  | cons next more =>
    simp only [dropEmptyLast, List.getLast?_cons_cons, List.dropLast_cons_cons]
    split <;> rfl

/-- Where something is left to read, the first line counts even if it is empty. -/
theorem dropEmptyLast_lines (mark : Mark) (ahead : List Mark) :
    dropEmptyLast (lines (mark :: ahead)) =
      (lines (mark :: ahead)).headD [] :: dropEmptyLast (lines (mark :: ahead)).tail := by
  obtain ⟨line, more, hlines⟩ := exists_lines (mark :: ahead)
  have hne := lines_cons_ne mark ahead
  rw [hlines] at hne ⊢
  exact dropEmptyLast_cons hne

/-! ## What a state makes of the text ahead -/

/-- Whether the position that is reached is open. -/
def Mode.isOpen : Mode → Bool
  | .quoted => false
  | .fresh | .afterReturn | .bare | .closing => true

/-- Some character of the row has been read. -/
def Mode.Begun : Mode → Prop
  | .bare | .quoted | .closing => True
  | .fresh | .afterReturn => False

namespace State

/-- The states that occur: quotes open only where they mean something, and nothing is kept of a
row before its first character. -/
structure Coherent (kind : Separator) (s : State) : Prop where
  comma : s.mode = .quoted ∨ s.mode = .closing → kind = .comma
  empty : s.mode = .fresh ∨ s.mode = .afterReturn → s.row = [] ∧ s.cell = []

/-- The cell that the reader completes when the rest of it is still ahead. A quote that may prove
to be doubled counts as ahead. -/
def cellWith (s : State) (kind : Separator) (raw : List Mark) : Text :=
  s.cell.reverse ++
    match s.mode with
    | .fresh | .afterReturn | .bare => cellOf kind raw
    | .quoted => unquote true (raw.map Prod.fst)
    | .closing => unquote true ('"' :: raw.map Prod.fst)

/-- The row that the reader completes when the rest of its line is still ahead. -/
def rowWith (s : State) (kind : Separator) (line : List Mark) : Row :=
  let cells := line.splitOn (kind.char, true)
  s.row.reverse ++ s.cellWith kind (cells.headD []) :: cells.tail.map (cellOf kind)

/-- The rows that the reader gives when some text is still ahead. A line feed at the front of it
belongs to the carriage return before it. -/
def rowsWith (s : State) (kind : Separator) (ahead : List Mark) : List Row :=
  s.rows.reverse ++
    match s.mode with
    | .fresh => (dropEmptyLast (lines ahead)).map (rowOf kind)
    | .afterReturn => (dropEmptyLast (lines (('\r', true) :: ahead)).tail).map (rowOf kind)
    | .bare | .quoted | .closing =>
      s.rowWith kind ((lines ahead).headD []) :: (dropEmptyLast (lines ahead).tail).map (rowOf kind)

theorem rowsWith_begun {s : State} (h : s.mode.Begun) (kind : Separator) (ahead : List Mark) :
    s.rowsWith kind ahead = s.rows.reverse ++
      s.rowWith kind ((lines ahead).headD []) ::
        (dropEmptyLast (lines ahead).tail).map (rowOf kind) := by
  obtain ⟨rows, row, cell, mode⟩ := s
  cases mode with
  | bare | quoted | closing => rfl
  | fresh | afterReturn => exact h.elim

/-- A new row takes a line as it stands. -/
theorem rowWith_fresh (rows : List Row) (kind : Separator) (line : List Mark) :
    rowWith ⟨rows, [], [], .bare⟩ kind line = rowOf kind line := by
  obtain ⟨cell, cells, hcells⟩ := exists_cells kind line
  simp [rowWith, rowOf, cellWith, hcells]

/-- **A character that cuts nothing** belongs to the cell, whatever it does there. -/
theorem rowsWith_extend (s s' : State) {kind : Separator} {mark : Mark}
    (hrows : s'.rows = s.rows) (hrow : s'.row = s.row) (hbegun : s.mode.Begun)
    (hbegun' : s'.mode.Begun) (hseparator : mark ≠ (kind.char, true))
    (hfeed : mark ≠ ('\n', true)) (hreturn : mark ≠ ('\r', true))
    (hcell : ∀ raw, s.cellWith kind (mark :: raw) = s'.cellWith kind raw) (ahead : List Mark) :
    s.rowsWith kind (mark :: ahead) = s'.rowsWith kind ahead := by
  obtain ⟨line, more, hlines⟩ := exists_lines ahead
  obtain ⟨cell, cells, hcells⟩ := exists_cells kind line
  have hsplit : (mark :: line).splitOn (kind.char, true) = (mark :: cell) :: cells := by
    rw [List.splitOn_cons_eq_if_modifyHead, if_neg (by simpa using hseparator), hcells]
    rfl
  rw [rowsWith_begun hbegun, rowsWith_begun hbegun', lines_cons hfeed hreturn, hlines, hrows]
  simp [rowWith, hsplit, hcells, hrow, hcell]

/-! ## One character -/

theorem unquote_cons {c : Char} (hc : c ≠ '"') (quoted : Bool) (text : Text) :
    unquote quoted (c :: text) = c :: unquote quoted text := by
  rw [unquote]
  · exact hc
  · intro rest _ h
    exact absurd h hc

theorem unquote_closing {text : Text} (h : text.head? ≠ some '"') :
    unquote true ('"' :: text) = unquote false text := by
  rw [unquote]
  · rfl
  · rintro rest - rfl
    exact h rfl

@[simp] theorem cellOf_nil (kind : Separator) : cellOf kind [] = [] := by
  cases kind <;> rfl

theorem cellOf_cons {kind : Separator} {mark : Mark} (h : ¬(kind.quotes && mark.1 = '"'))
    (raw : List Mark) : cellOf kind (mark :: raw) = mark.1 :: cellOf kind raw := by
  cases kind with
  | tab => rfl
  | comma =>
    have hc : mark.1 ≠ '"' := by simpa [Separator.quotes] using h
    exact unquote_cons hc false _

theorem rowsWith_separator {s : State} {kind : Separator} (hbegun : s.mode.Begun)
    (hcell : s.cellWith kind [] = s.cell.reverse) (ahead : List Mark) :
    s.rowsWith kind ((kind.char, true) :: ahead) = s.endCell.rowsWith kind ahead := by
  obtain ⟨line, more, hlines⟩ := exists_lines ahead
  obtain ⟨cell, cells, hcells⟩ := exists_cells kind line
  have hsplit : ((kind.char, true) :: line).splitOn (kind.char, true) = [] :: cell :: cells := by
    rw [List.splitOn_cons_eq_if_modifyHead, if_pos (by simp), hcells]
  have hfeed : (kind.char, true) ≠ ('\n', true) := by cases kind <;> decide
  have hreturn : (kind.char, true) ≠ ('\r', true) := by cases kind <;> decide
  have hnext : s.endCell.cellWith kind cell = cellOf kind cell := rfl
  rw [rowsWith_begun hbegun, rowsWith_begun (s := s.endCell) trivial, lines_cons hfeed hreturn,
    hlines]
  simp only [rowWith, List.modifyHead_cons, List.headD_cons, List.tail_cons, hsplit, hcells, hcell,
    hnext]
  simp [endCell]

/-- The line ends here: the row so far is complete. -/
theorem rowWith_nil {s : State} {kind : Separator} (hcell : s.cellWith kind [] = s.cell.reverse) :
    s.rowWith kind [] = (s.cell.reverse :: s.row).reverse := by
  simp [rowWith, List.splitOn_nil, hcell]

theorem rowsWith_lineFeed {s : State} {kind : Separator} (hbegun : s.mode.Begun)
    (hcell : s.cellWith kind [] = s.cell.reverse) (ahead : List Mark) :
    s.rowsWith kind (('\n', true) :: ahead) = (s.endRow .fresh).rowsWith kind ahead := by
  rw [rowsWith_begun hbegun, lines_lineFeed]
  simp [rowsWith, endRow, rowWith_nil hcell]

theorem rowsWith_return {s : State} {kind : Separator} (hbegun : s.mode.Begun)
    (hcell : s.cellWith kind [] = s.cell.reverse) (ahead : List Mark) :
    s.rowsWith kind (('\r', true) :: ahead) = (s.endRow .afterReturn).rowsWith kind ahead := by
  obtain ⟨rest, hrest⟩ := exists_lines_return ahead
  rw [rowsWith_begun hbegun]
  simp [rowsWith, endRow, rowWith_nil hcell, hrest]

/-- **A character outside quotes**, read in a row that has begun. What the state may still hold
back does not show before this character. -/
theorem rowsWith_stepBare {s : State} {kind : Separator} {c : Char} (hbegun : s.mode.Begun)
    (hnil : s.cellWith kind [] = s.cell.reverse)
    (hcons : ∀ raw, s.cellWith kind ((c, true) :: raw)
      = s.cell.reverse ++ cellOf kind ((c, true) :: raw)) (ahead : List Mark) :
    s.rowsWith kind ((c, true) :: ahead) = (s.stepBare kind c).rowsWith kind ahead := by
  rw [stepBare]
  by_cases hquote : kind.quotes && c = '"'
  · rw [if_pos hquote]
    obtain ⟨hkind, rfl⟩ : kind.quotes = true ∧ c = '"' := by simpa using hquote
    have hseparator : ('"', true) ≠ (kind.char, true) := by cases kind <;> decide
    apply rowsWith_extend s { s with mode := .quoted } rfl rfl hbegun trivial hseparator
      (by decide) (by decide)
    intro raw
    rw [hcons]
    simp [cellOf, hkind, cellWith, unquote]
  rw [if_neg hquote]
  by_cases hseparator : c = kind.char
  · subst hseparator
    rw [if_pos rfl]
    exact rowsWith_separator hbegun hnil ahead
  rw [if_neg hseparator]
  by_cases hfeed : c = '\n'
  · subst hfeed
    rw [if_pos rfl]
    exact rowsWith_lineFeed hbegun hnil ahead
  rw [if_neg hfeed]
  by_cases hreturn : c = '\r'
  · subst hreturn
    rw [if_pos rfl]
    exact rowsWith_return hbegun hnil ahead
  rw [if_neg hreturn]
  apply rowsWith_extend s (s.push c .bare) rfl rfl hbegun trivial (by simpa using hseparator)
    (by simpa using hfeed) (by simpa using hreturn)
  intro raw
  rw [hcons, cellOf_cons hquote]
  simp [push, cellWith]

theorem rowsWith_bare (rows : List Row) (row : Row) (cell : Text) (kind : Separator) (c : Char)
    (ahead : List Mark) :
    rowsWith ⟨rows, row, cell, .bare⟩ kind ((c, true) :: ahead)
      = (stepBare kind ⟨rows, row, cell, .bare⟩ c).rowsWith kind ahead :=
  rowsWith_stepBare (s := ⟨rows, row, cell, .bare⟩) trivial (by simp [cellWith]) (fun _ => rfl)
    ahead

theorem rowsWith_fresh (rows : List Row) (kind : Separator) (c : Char) (ahead : List Mark) :
    rowsWith ⟨rows, [], [], .fresh⟩ kind ((c, true) :: ahead)
      = (stepBare kind ⟨rows, [], [], .fresh⟩ c).rowsWith kind ahead := by
  have hbare : rowsWith ⟨rows, [], [], .fresh⟩ kind ((c, true) :: ahead)
      = rowsWith ⟨rows, [], [], .bare⟩ kind ((c, true) :: ahead) := by
    simp only [rowsWith, dropEmptyLast_lines, List.map_cons, rowWith_fresh]
  rw [hbare]
  exact rowsWith_bare rows [] [] kind c ahead

/-- **One character leaves the rows as they are** that the state and the text ahead make up. -/
theorem rowsWith_step {kind : Separator} {s : State} (hs : s.Coherent kind) (c : Char)
    (ahead : List Mark) :
    s.rowsWith kind ((c, s.mode.isOpen) :: ahead) = (s.step kind c).rowsWith kind ahead := by
  obtain ⟨rows, row, cell, mode⟩ := s
  cases mode with
  | fresh =>
    obtain ⟨rfl, rfl⟩ : row = [] ∧ cell = [] := hs.empty (.inl rfl)
    exact rowsWith_fresh rows kind c ahead
  | afterReturn =>
    obtain ⟨rfl, rfl⟩ : row = [] ∧ cell = [] := hs.empty (.inr rfl)
    by_cases hc : c = '\n'
    · subst hc
      simp [step, rowsWith, Mode.isOpen, lines_return_lineFeed]
    · -- the carriage return stood alone, so the row begins as after any terminator
      have hfresh : rowsWith ⟨rows, [], [], .afterReturn⟩ kind ((c, true) :: ahead)
          = rowsWith ⟨rows, [], [], .fresh⟩ kind ((c, true) :: ahead) := by
        simp [rowsWith, lines_return, hc]
      simp only [step, if_neg hc]
      exact hfresh.trans (rowsWith_fresh rows kind c ahead)
  | bare => exact rowsWith_bare rows row cell kind c ahead
  | quoted =>
    -- no position inside quotes is open, so nothing cuts there
    have hcut : ∀ d, (c, false) ≠ (d, true) := by simp
    by_cases hc : c = '"'
    · subst hc
      exact rowsWith_extend ⟨rows, row, cell, .quoted⟩ ⟨rows, row, cell, .closing⟩ rfl rfl trivial
        trivial (hcut _) (hcut _) (hcut _) (fun _ => rfl) ahead
    · simp only [step, if_neg hc]
      apply rowsWith_extend ⟨rows, row, cell, .quoted⟩ ⟨rows, row, c :: cell, .quoted⟩ rfl rfl
        trivial trivial (hcut _) (hcut _) (hcut _)
      intro raw
      simp [cellWith, unquote_cons hc]
  | closing =>
    obtain rfl : kind = .comma := hs.comma (.inr rfl)
    by_cases hc : c = '"'
    · -- the quote before and this one are a character together, and quoting goes on
      subst hc
      have hcut : ∀ d, d ≠ '"' → ('"', true) ≠ (d, true) := by simp [eq_comm]
      apply rowsWith_extend ⟨rows, row, cell, .closing⟩ ⟨rows, row, '"' :: cell, .quoted⟩ rfl rfl
        trivial trivial (hcut _ (by decide)) (hcut _ (by decide)) (hcut _ (by decide))
      intro raw
      simp [cellWith, unquote]
    · -- the quote before ended quoting, as if it had never been held back
      simp only [step, if_neg hc]
      apply rowsWith_stepBare (s := ⟨rows, row, cell, .closing⟩) trivial
      · simp [cellWith, unquote]
      · intro raw
        have hhead : (c :: raw.map Prod.fst).head? ≠ some '"' := by simpa using hc
        simp [cellWith, cellOf, Separator.quotes, unquote_closing hhead]

theorem coherent_stepBare (kind : Separator) (s : State) (c : Char) :
    (s.stepBare kind c).Coherent kind := by
  unfold stepBare
  split
  · rename_i h
    refine ⟨fun _ => ?_, by simp⟩
    cases kind with
    | comma => rfl
    | tab => simp [Separator.quotes] at h
  · split
    · exact ⟨by simp [endCell], by simp [endCell]⟩
    · split
      · exact ⟨by simp [endRow], by simp [endRow]⟩
      · split
        · exact ⟨by simp [endRow], by simp [endRow]⟩
        · exact ⟨by simp [push], by simp [push]⟩

theorem coherent_step {kind : Separator} {s : State} (hs : s.Coherent kind) (c : Char) :
    (s.step kind c).Coherent kind := by
  obtain ⟨rows, row, cell, mode⟩ := s
  cases mode with
  | fresh | bare => exact coherent_stepBare ..
  | afterReturn =>
    by_cases hc : c = '\n'
    · simp only [step, if_pos hc]
      exact ⟨by simp, fun _ => hs.empty (.inr rfl)⟩
    · simp only [step, if_neg hc]
      exact coherent_stepBare ..
  | quoted =>
    have hkind := hs.comma (.inl rfl)
    by_cases hc : c = '"'
    · simp only [step, if_pos hc]
      exact ⟨fun _ => hkind, by simp⟩
    · simp only [step, if_neg hc]
      exact ⟨fun _ => hkind, by simp [push]⟩
  | closing =>
    have hkind := hs.comma (.inr rfl)
    by_cases hc : c = '"'
    · simp only [step, if_pos hc]
      exact ⟨fun _ => hkind, by simp [push]⟩
    · simp only [step, if_neg hc]
      exact coherent_stepBare ..

theorem isOpen_stepBare (kind : Separator) (s : State) (c : Char) :
    (s.stepBare kind c).mode.isOpen = openNext kind c true := by
  unfold stepBare openNext
  split
  · rfl
  · split
    · rfl
    · split
      · rfl
      · split <;> rfl

/-- The mode knows whether the position is open. -/
theorem isOpen_step {kind : Separator} {s : State} (hs : s.Coherent kind) (c : Char) :
    (s.step kind c).mode.isOpen = openNext kind c s.mode.isOpen := by
  obtain ⟨rows, row, cell, mode⟩ := s
  cases mode with
  | fresh | bare => exact isOpen_stepBare ..
  | afterReturn =>
    by_cases hc : c = '\n'
    · subst hc
      simp [step, Mode.isOpen, openNext]
    · simp only [step, if_neg hc]
      exact isOpen_stepBare ..
  | quoted =>
    obtain rfl : kind = .comma := hs.comma (.inl rfl)
    by_cases hc : c = '"' <;> simp [step, hc, push, Mode.isOpen, openNext, Separator.quotes]
  | closing =>
    obtain rfl : kind = .comma := hs.comma (.inr rfl)
    by_cases hc : c = '"'
    · simp [step, hc, push, Mode.isOpen, openNext, Separator.quotes]
    · simp only [step, if_neg hc]
      exact isOpen_stepBare ..

/-! ## The whole text -/

/-- At the end of the text, these are the rows that the reader gives. -/
theorem rowsWith_nil (kind : Separator) (s : State) : s.rowsWith kind [] = s.finish := by
  obtain ⟨rows, row, cell, mode⟩ := s
  cases mode <;>
    simp [rowsWith, rowWith, cellWith, finish, endRow, lines, dropEmptyLast, unquote,
      List.splitOn_nil]

theorem rowsWith_marks {kind : Separator} {s : State} (hs : s.Coherent kind) (text : Text) :
    s.rowsWith kind (marks kind s.mode.isOpen text) = (text.foldl (step kind) s).finish := by
  -- the mark of a character is what the mode says, and stays so after the step
  induction text generalizing s with
  | nil => exact rowsWith_nil kind s
  | cons c text ih =>
    rw [marks, rowsWith_step hs, ← isOpen_step hs, ih (coherent_step hs c)]
    rfl

theorem coherent_start (kind : Separator) : start.Coherent kind :=
  ⟨by simp [start], fun _ => ⟨rfl, rfl⟩⟩

/-- The rows of a text are what the start makes of it. -/
theorem rows_eq_rowsWith (kind : Separator) (text : Text) :
    Table.rows kind text = start.rowsWith kind (marks kind true text) :=
  (rowsWith_marks (coherent_start kind) text).symm

end State

/-- **Reading is splitting.** What the reader finds in one pass is what two cuts at the open
positions and a look at each cell by itself give, for every text and both separators. -/
theorem parse_eq_splitRows (text : Text) (kind : Separator) :
    parse text kind false = ⟨[], splitRows kind text⟩ := by
  have hrows : rows kind text = splitRows kind text := by
    rw [rows, ← State.rowsWith_marks (State.coherent_start kind), splitRows, marked_eq_marks]
    rfl
  rw [parse, hrows]
  rfl

/-- Quotes in the middle of a cell, a doubled one at the end of quoting, a carriage return with a
line feed, and a quote that nothing closes. -/
example : splitRows .comma ['a', '"', ',', '"', '"', '"', 'b', ',', '\r', '\n', '"', '\n']
    = [[['a', ',', '"', 'b'], []], [['\n']]] := by
  decide

end Rowwise.Table
