import Mathlib.Data.List.Induction
import Rowwise.Proofs.Table.Splitting

/-!
# Table — Joining

Where a text may be cut so that both parts can be read by themselves: after a terminator at which no
quote is open, unless the cut parts a carriage return from its line feed. The main statement is that
the rows of the whole are then those of the first part followed by those of the second.

After such a terminator the reader keeps nothing but the complete rows (`State.Coherent.settled`),
and it reads on as from the start (`State.finish_foldl_settled`). The one look-ahead that it may
still hold is for a line feed, and that is what the condition on the cut excludes.
-/

namespace Rowwise.Table

namespace State

variable {kind : Separator}

/-! ## What a character can do -/

/-- **The outcomes of a character outside quotes.** -/
theorem stepBare_cases (kind : Separator) (s : State) (c : Char) :
    (kind.quotes ∧ c = '"' ∧ s.stepBare kind c = { s with mode := .quoted }) ∨
    (c = kind.char ∧ s.stepBare kind c = s.endCell) ∨
    (c = '\n' ∧ s.stepBare kind c = s.endRow .fresh) ∨
    (c = '\r' ∧ s.stepBare kind c = s.endRow .afterReturn) ∨
    (c ≠ '\n' ∧ c ≠ '\r' ∧ s.stepBare kind c = s.push c .bare) := by
  unfold stepBare
  split
  · rename_i h
    obtain ⟨hquotes, hc⟩ : kind.quotes = true ∧ c = '"' := by simpa using h
    exact .inl ⟨hquotes, hc, rfl⟩
  · split
    · rename_i h
      exact .inr (.inl ⟨h, rfl⟩)
    · split
      · rename_i h
        exact .inr (.inr (.inl ⟨h, rfl⟩))
      · split
        · rename_i h
          exact .inr (.inr (.inr (.inl ⟨h, rfl⟩)))
        · rename_i hfeed hreturn
          exact .inr (.inr (.inr (.inr ⟨hfeed, hreturn, rfl⟩)))

/-- **The outcomes of a character**: it is read as outside quotes, or one of the look-aheads takes
it, or it stands inside quotes. -/
theorem step_cases (kind : Separator) (s : State) (c : Char) :
    (s.mode.isOpen ∧ (s.mode = .afterReturn → c ≠ '\n') ∧ (s.mode = .closing → c ≠ '"') ∧
      s.step kind c = s.stepBare kind c) ∨
    (s.mode = .afterReturn ∧ c = '\n' ∧ s.step kind c = { s with mode := .fresh }) ∨
    (s.mode = .closing ∧ c = '"' ∧ s.step kind c = s.push '"' .quoted) ∨
    (s.mode = .quoted ∧ c = '"' ∧ s.step kind c = { s with mode := .closing }) ∨
    (s.mode = .quoted ∧ c ≠ '"' ∧ s.step kind c = s.push c .quoted) := by
  obtain ⟨rows, row, cell, mode⟩ := s
  cases mode with
  | fresh | bare => exact .inl ⟨rfl, by simp, by simp, rfl⟩
  | afterReturn =>
    by_cases hc : c = '\n'
    · exact .inr (.inl ⟨rfl, hc, if_pos hc⟩)
    · exact .inl ⟨rfl, fun _ => hc, by simp, if_neg hc⟩
  | quoted =>
    by_cases hc : c = '"'
    · exact .inr (.inr (.inr (.inl ⟨rfl, hc, if_pos hc⟩)))
    · exact .inr (.inr (.inr (.inr ⟨rfl, hc, if_neg hc⟩)))
  | closing =>
    by_cases hc : c = '"'
    · exact .inr (.inr (.inl ⟨rfl, hc, if_pos hc⟩))
    · exact .inl ⟨rfl, by simp, fun _ => hc, if_neg hc⟩

/-! ## The reader after a text -/

/-- The reader after a text. -/
def read (kind : Separator) (text : Text) : State :=
  text.foldl (step kind) start

@[simp] theorem read_nil (kind : Separator) : read kind [] = start := rfl

theorem read_append (kind : Separator) (before after : Text) :
    read kind (before ++ after) = after.foldl (step kind) (read kind before) :=
  List.foldl_append

@[simp] theorem read_concat (kind : Separator) (before : Text) (c : Char) :
    read kind (before ++ [c]) = (read kind before).step kind c :=
  read_append kind before [c]

theorem coherent_read (kind : Separator) (text : Text) : (read kind text).Coherent kind := by
  induction text using List.reverseRecOn with
  | nil => exact coherent_start kind
  | append_singleton before c ih =>
    rw [read_concat]
    exact coherent_step ih c

/-- Whether the reader is outside quotes is a matter of counting the quotes before. -/
theorem isOpen_read (kind : Separator) (text : Text) :
    (read kind text).mode.isOpen = openAfter kind text := by
  induction text using List.reverseRecOn with
  | nil => cases kind <;> rfl
  | append_singleton before c ih =>
    rw [read_concat, isOpen_step (coherent_read kind before), ih, openAfter_concat]

/-! ## After a terminator -/

/-- A row has just ended, or none was begun. -/
def Settled (s : State) : Prop :=
  s.mode = .fresh ∨ s.mode = .afterReturn

theorem step_return_open {s : State} (hopen : s.mode.isOpen) :
    s.step kind '\r' = s.endRow .afterReturn := by
  obtain ⟨rows, row, cell, mode⟩ := s
  cases mode with
  | fresh | bare | afterReturn | closing => cases kind <;> rfl
  | quoted => cases hopen

theorem step_lineFeed_open {s : State} (hopen : s.mode.isOpen) (hmode : s.mode ≠ .afterReturn) :
    s.step kind '\n' = s.endRow .fresh := by
  obtain ⟨rows, row, cell, mode⟩ := s
  cases mode with
  | fresh | bare | closing => cases kind <;> rfl
  | afterReturn => exact absurd rfl hmode
  | quoted => cases hopen

/-- A terminator outside quotes settles the reader, which then knows by which it was. -/
theorem mode_step_terminator {s : State} (hopen : s.mode.isOpen) {c : Char}
    (hc : c = '\r' ∨ c = '\n') :
    (s.step kind c).mode = if c = '\r' then .afterReturn else .fresh := by
  rcases hc with rfl | rfl
  · rw [step_return_open hopen]
    rfl
  · obtain ⟨rows, row, cell, mode⟩ := s
    by_cases hmode : mode = .afterReturn
    · subst hmode
      rfl
    · rw [step_lineFeed_open hopen hmode]
      rfl

/-- A settled reader has nothing left of a row. -/
theorem Coherent.settled {s : State} (hs : s.Coherent kind) (hsettled : s.Settled) :
    s = ⟨s.rows, [], [], s.mode⟩ := by
  obtain ⟨rows, row, cell, mode⟩ := s
  obtain ⟨rfl, rfl⟩ : row = [] ∧ cell = [] := hs.empty hsettled
  rfl

theorem Settled.finish {s : State} (h : s.Settled) : s.finish = s.rows.reverse := by
  obtain ⟨rows, row, cell, mode⟩ := s
  rcases h with rfl | rfl <;> rfl

/-- **Reading on from a settled state** is reading from the start, with the rows before in front. -/
theorem finish_foldl_settled {s : State} (hs : s.Coherent kind) (hsettled : s.Settled)
    {text : Text} (hseam : s.mode = .afterReturn → text.head? ≠ some '\n') :
    (text.foldl (step kind) s).finish = s.rows.reverse ++ Table.rows kind text := by
  rw [rows_eq_rowsWith, ← rowsWith_marks hs, hs.settled hsettled]
  rcases hsettled with hmode | hmode
  · simp [rowsWith, start, hmode, Mode.isOpen]
  · -- the line that the carriage return ended is the one before the text
    have hlines : (lines (('\r', true) :: marks kind true text)).tail
        = lines (marks kind true text) := by
      cases text with
      | nil => rfl
      | cons c text =>
        have hc : (c, true) ≠ ('\n', true) := by simpa using hseam hmode
        rw [marks, lines_return hc, List.tail_cons]
    simp [rowsWith, start, hmode, Mode.isOpen, hlines]

end State

/-! ## Two texts -/

/-- Every text but the empty one has a row. -/
theorem rows_ne_nil (kind : Separator) {text : Text} (hne : text ≠ []) : rows kind text ≠ [] := by
  obtain ⟨c, rest, rfl⟩ := List.exists_cons_of_ne_nil hne
  rw [State.rows_eq_rowsWith, marks, State.rowsWith, State.start]
  simp [dropEmptyLast_lines]

section

variable {kind : Separator} {before after : Text}

theorem rows_append (hend : before.getLast? = some '\r' ∨ before.getLast? = some '\n')
    (hopen : openAfter kind before)
    (hseam : ¬(before.getLast? = some '\r' ∧ after.head? = some '\n')) :
    rows kind (before ++ after) = rows kind before ++ rows kind after := by
  obtain ⟨c, hlast, hc⟩ : ∃ c, before.getLast? = some c ∧ (c = '\r' ∨ c = '\n') := by
    rcases hend with h | h
    · exact ⟨'\r', h, .inl rfl⟩
    · exact ⟨'\n', h, .inr rfl⟩
  obtain ⟨front, rfl⟩ := List.getLast?_eq_some_iff.mp hlast
  have hquote : c ≠ '"' := by rcases hc with rfl | rfl <;> decide
  have hfront : (State.read kind front).mode.isOpen := by
    rw [State.isOpen_read]
    simpa [openAfter_concat, openNext, hquote] using hopen
  have hmode : (State.read kind (front ++ [c])).mode = if c = '\r' then .afterReturn else .fresh := by
    rw [State.read_concat]
    exact State.mode_step_terminator hfront hc
  have hsettled : (State.read kind (front ++ [c])).Settled := by
    rw [State.Settled, hmode]
    split <;> simp
  have hahead : (State.read kind (front ++ [c])).mode = .afterReturn → after.head? ≠ some '\n' := by
    intro hreturn hfeed
    have hcr : c = '\r' := by
      rcases hc with h | rfl
      · exact h
      · rw [hmode, if_neg (by decide)] at hreturn
        cases hreturn
    exact hseam ⟨by rw [hlast, hcr], hfeed⟩
  have hon := State.finish_foldl_settled (State.coherent_read kind (front ++ [c])) hsettled hahead
  rw [← State.read_append, ← hsettled.finish] at hon
  exact hon

/-- **Texts are read one after the other.** Cut a text after a carriage return or a line feed with
an even number of quotes before it (which only comma-separated text needs), and not between a
carriage return and a line feed. Then its rows are those of the first part followed by those of the
second; and if there is a header row, the names come from the first part, with the other rows of
which the rows of the second follow. -/
theorem parse_append (hend : before.getLast? = some '\r' ∨ before.getLast? = some '\n')
    (heven : kind = .comma → before.count '"' % 2 = 0)
    (hseam : ¬(before.getLast? = some '\r' ∧ after.head? = some '\n')) :
    (parse (before ++ after) kind false).rows
        = (parse before kind false).rows ++ (parse after kind false).rows ∧
      (parse (before ++ after) kind true).headers = (parse before kind true).headers ∧
      (parse (before ++ after) kind true).rows
        = (parse before kind true).rows ++ (parse after kind false).rows := by
  have hopen : openAfter kind before := by
    cases kind with
    | tab => rfl
    | comma => simp [openAfter, heven rfl]
  have hne : before ≠ [] := by
    rintro rfl
    rcases hend with h | h <;> cases h
  have hrows := rows_append hend hopen hseam
  obtain ⟨names, others, hbefore⟩ := List.exists_cons_of_ne_nil (rows_ne_nil kind hne)
  rw [hbefore] at hrows
  simp only [parse, Dataset.ofRows, hrows, hbefore, List.cons_append, and_self]

/-- A line end between quotes, a quote in the middle of a cell, and a lone carriage return at the
cut; the second part leaves a quote open. -/
theorem parse_append_quoted :
    let before : Text := ['H', '"', '\r', '"', ',', '\n', 'x', '"', ',', '"', '\r']
    let after : Text := ['"', '\n', 'y']
    before.getLast? = some '\r' ∧ before.count '"' % 2 = 0 ∧ after.head? ≠ some '\n' ∧
      (parse (before ++ after) .comma false).rows
        = (parse before .comma false).rows ++ (parse after .comma false).rows ∧
      (parse (before ++ after) .comma true).headers = [['h', '\r'], []] ∧
      (parse (before ++ after) .comma true).rows = [[['x', ',']], [['\n', 'y']]] := by
  intro before after
  have hend : before.getLast? = some '\r' := rfl
  have heven : before.count '"' % 2 = 0 := by decide
  have hseam : after.head? ≠ some '\n' := by decide
  have hcomma : Separator.comma = .comma → before.count '"' % 2 = 0 := fun _ => heven
  obtain ⟨hplain, hheaders, hrows⟩ := parse_append (.inl hend) hcomma fun h => hseam h.2
  exact ⟨hend, heven, hseam, hplain, hheaders, hrows⟩

end

end Rowwise.Table
