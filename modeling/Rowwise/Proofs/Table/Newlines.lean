import Mathlib.Data.List.Basic
import Rowwise.Proofs.Table.Joining
import Rowwise.Proofs.Table.Writing

/-!
# Table — Newlines

What the three ways to end a line mean for the reader. Outside quotes they mean the same; inside
quotes they are characters of the cell as they stand. The main statement is that writing a line feed
for every line end of a text writes it for every line end of the cells, and changes nothing else.

The proof reads a text and its unified form side by side (`State.read_unifyNewlines`). They can only
part where a line feed follows a carriage return, which the unified form has no character for. There
the reader, too, has just seen the carriage return (`State.atReturn_read`): outside quotes it lets
the line feed pass, and inside quotes the carriage return is the latest character of the cell, so
the two are neighbours in the cell as they are in the text. That this is the only way for them to
become neighbours is due to `State.Tidy`: where quoting begins, the cell does not end with a
carriage return.
-/

namespace Rowwise.Table

/-! ## Line ends as line feeds -/

/-- The text with a line feed for each line end: for a carriage return, together with the line feed
after it if there is one. -/
def unifyNewlines : Text → Text
  | [] => []
  | '\r' :: '\n' :: rest => '\n' :: unifyNewlines rest
  | '\r' :: rest => '\n' :: unifyNewlines rest
  | c :: rest => c :: unifyNewlines rest

/-- What a character becomes, if it is not the line feed of a carriage return. -/
def unified (c : Char) : Char :=
  if c = '\r' then '\n' else c

theorem unifyNewlines_return_lineFeed (rest : Text) :
    unifyNewlines ('\r' :: '\n' :: rest) = '\n' :: unifyNewlines rest := by
  simp [unifyNewlines]

theorem unifyNewlines_cons {c : Char} {rest : Text}
    (hseam : ¬(c = '\r' ∧ rest.head? = some '\n')) :
    unifyNewlines (c :: rest) = unified c :: unifyNewlines rest := by
  by_cases hc : c = '\r'
  · subst hc
    rw [unifyNewlines, unified, if_pos rfl]
    rintro more rfl
    exact hseam ⟨rfl, rfl⟩
  · rw [unifyNewlines, unified, if_neg hc]
    · exact fun more h _ => hc h
    · exact hc

theorem unifyNewlines_append {a b : Text}
    (hseam : ¬(a.getLast? = some '\r' ∧ b.head? = some '\n')) :
    unifyNewlines (a ++ b) = unifyNewlines a ++ unifyNewlines b := by
  fun_induction unifyNewlines a with
  | case1 => rfl
  | case2 rest ih =>
    have hrest : ¬(rest.getLast? = some '\r' ∧ b.head? = some '\n') := fun h =>
      hseam ⟨List.mem_getLast?_cons (List.mem_getLast?_cons h.1), h.2⟩
    rw [List.cons_append, List.cons_append, unifyNewlines_return_lineFeed, ih hrest,
      List.cons_append]
  | case3 rest hfeed ih =>
    have hrest : ¬(rest.getLast? = some '\r' ∧ b.head? = some '\n') := fun h =>
      hseam ⟨List.mem_getLast?_cons h.1, h.2⟩
    have hahead : (rest ++ b).head? ≠ some '\n' := by
      cases rest with
      | nil => exact fun h => hseam ⟨rfl, h⟩
      | cons d more =>
        intro h
        exact hfeed more (by rw [Option.some.inj h])
    rw [List.cons_append, unifyNewlines_cons fun h => hahead h.2, ih hrest]
    rfl
  | case4 c rest _ hreturn ih =>
    have hrest : ¬(rest.getLast? = some '\r' ∧ b.head? = some '\n') := fun h =>
      hseam ⟨List.mem_getLast?_cons h.1, h.2⟩
    rw [List.cons_append, unifyNewlines_cons fun h => hreturn h.1, unified, if_neg hreturn,
      ih hrest, List.cons_append]

@[simp] theorem unifyNewlines_singleton (c : Char) : unifyNewlines [c] = [unified c] :=
  unifyNewlines_cons (by simp)

/-- One more character adds its own line feed or itself, unless it is the line feed of the carriage
return before it. -/
theorem unifyNewlines_concat (text : Text) (c : Char) :
    unifyNewlines (text ++ [c]) =
      if text.getLast? = some '\r' ∧ c = '\n' then unifyNewlines text
      else unifyNewlines text ++ [unified c] := by
  split
  · rename_i h
    obtain ⟨hlast, rfl⟩ := h
    obtain ⟨front, rfl⟩ := List.getLast?_eq_some_iff.mp hlast
    have hfront : ∀ rest, unifyNewlines (front ++ '\r' :: rest)
        = unifyNewlines front ++ unifyNewlines ('\r' :: rest) := fun rest =>
      unifyNewlines_append (by simp)
    rw [List.append_assoc, List.singleton_append, hfront, hfront,
      unifyNewlines_return_lineFeed]
    rfl
  · rename_i h
    rw [unifyNewlines_append (by simpa using h), unifyNewlines_singleton]

theorem unified_of_ne {c : Char} (h : c ≠ '\r') : unified c = c := if_neg h

/-- A terminator that may stand between two parts of a text: it makes no carriage return a neighbour
of a line feed. -/
def Terminator.Fits (terminator : Terminator) (before after : Text) : Prop :=
  (terminator = .lf → before.getLast? ≠ some '\r') ∧
    (terminator = .cr → after.head? ≠ some '\n')

/-! ## The reader at a carriage return -/

namespace State

variable {kind : Separator}

/-- The latest character that was read is a carriage return. -/
def AtReturn (s : State) : Prop :=
  s.mode = .afterReturn ∨ s.mode = .quoted ∧ s.cell.head? = some '\r'

/-- A carriage return is the latest character of a cell only in quotes and just after them. -/
def Tidy (s : State) : Prop :=
  s.cell.head? = some '\r' → s.mode = .quoted ∨ s.mode = .closing

theorem tidy_stepBare (kind : Separator) (s : State) (c : Char) : (s.stepBare kind c).Tidy := by
  rcases stepBare_cases kind s c with
    ⟨-, -, h⟩ | ⟨-, h⟩ | ⟨-, h⟩ | ⟨-, h⟩ | ⟨-, hreturn, h⟩
  · rw [h]
    exact fun _ => .inl rfl
  · rw [h]
    exact fun hcell => by cases hcell
  · rw [h]
    exact fun hcell => by cases hcell
  · rw [h]
    exact fun hcell => by cases hcell
  · rw [h]
    exact fun hcell => absurd (Option.some.inj hcell) hreturn

theorem Tidy.step {s : State} (hs : s.Tidy) (c : Char) : (s.step kind c).Tidy := by
  rcases step_cases kind s c with
    ⟨-, -, -, h⟩ | ⟨hmode, -, h⟩ | ⟨-, -, h⟩ | ⟨-, -, h⟩ | ⟨-, -, h⟩
  · rw [h]
    exact tidy_stepBare kind s c
  · rw [h]
    intro hcell
    rcases hs hcell with hother | hother <;> simp [hmode] at hother
  · rw [h]
    exact fun _ => .inl rfl
  · rw [h]
    exact fun _ => .inr rfl
  · rw [h]
    exact fun _ => .inl rfl

/-- Outside quotes only a carriage return leaves the reader at one, since a quote opens where the
cell does not end with a carriage return. -/
theorem atReturn_stepBare {s : State} {c : Char}
    (hcell : c = '"' → s.cell.head? ≠ some '\r') : (s.stepBare kind c).AtReturn ↔ c = '\r' := by
  rcases stepBare_cases kind s c with
    ⟨-, hc, h⟩ | ⟨hc, h⟩ | ⟨hc, h⟩ | ⟨hc, h⟩ | ⟨-, hreturn, h⟩
  · rw [h, hc]
    simp [AtReturn, hcell hc]
  · rw [h, hc]
    cases kind <;> simp [AtReturn, endCell, Separator.char]
  · rw [h, hc]
    simp [AtReturn, endRow]
  · rw [h, hc]
    simp [AtReturn, endRow]
  · rw [h]
    simp [AtReturn, push, hreturn]

theorem Tidy.atReturn_step {s : State} (hs : s.Tidy) (c : Char) :
    (s.step kind c).AtReturn ↔ c = '\r' := by
  rcases step_cases kind s c with
    ⟨hopen, -, hclosing, h⟩ | ⟨-, hc, h⟩ | ⟨-, hc, h⟩ | ⟨-, hc, h⟩ | ⟨-, -, h⟩
  · rw [h]
    refine atReturn_stepBare fun hc hcell => ?_
    rcases hs hcell with hmode | hmode
    · rw [hmode] at hopen
      cases hopen
    · exact hclosing hmode hc
  · rw [h, hc]
    simp [AtReturn]
  · rw [h, hc]
    simp [AtReturn, push]
  · rw [h, hc]
    simp [AtReturn]
  · rw [h]
    simp [AtReturn, push]

theorem tidy_read (kind : Separator) (text : Text) : (read kind text).Tidy := by
  induction text using List.reverseRecOn with
  | nil => exact fun h => by cases h
  | append_singleton before c ih =>
    rw [read_concat]
    exact ih.step c

/-- The reader is at a carriage return if and only if the text before it ends with one. -/
theorem atReturn_read (kind : Separator) (text : Text) :
    (read kind text).AtReturn ↔ text.getLast? = some '\r' := by
  induction text using List.reverseRecOn with
  | nil => simp [AtReturn, start]
  | append_singleton before c _ =>
    rw [read_concat, (tidy_read kind before).atReturn_step]
    simp

/-! ## Both texts side by side -/

/-- The reader that has met a line feed for each line end. -/
def unify (s : State) : State :=
  ⟨s.rows.map (List.map unifyNewlines), s.row.map unifyNewlines,
    (unifyNewlines s.cell.reverse).reverse, if s.mode = .afterReturn then .fresh else s.mode⟩

theorem unify_push {s : State} {c : Char} {mode : Mode} (hmode : mode ≠ .afterReturn)
    (hseam : ¬(s.cell.head? = some '\r' ∧ c = '\n')) :
    (s.push c mode).unify = s.unify.push (unified c) mode := by
  have hcell : unifyNewlines (s.cell.reverse ++ [c]) = unifyNewlines s.cell.reverse ++ [unified c] := by
    rw [unifyNewlines_concat, List.getLast?_reverse, if_neg hseam]
  simp [unify, push, hcell, hmode]

theorem unify_endCell (s : State) : s.endCell.unify = s.unify.endCell := by
  simp [unify, endCell, unifyNewlines]

theorem unify_endRow (s : State) (mode : Mode) :
    (s.endRow mode).unify = s.unify.endRow (if mode = .afterReturn then .fresh else mode) := by
  simp [unify, endRow, unifyNewlines]

/-- **A character outside quotes** is read alike in a text and in its unified form. -/
theorem unify_stepBare (s : State) (c : Char) :
    (s.stepBare kind c).unify = s.unify.stepBare kind (unified c) := by
  by_cases hreturn : c = '\r'
  · subst hreturn
    cases kind <;> exact unify_endRow s .afterReturn
  · rw [unified_of_ne hreturn]
    unfold stepBare
    split
    · rfl
    · split
      · exact unify_endCell s
      · split
        · exact unify_endRow s .fresh
        · rename_i hfeed
          have hpush : (s.push c .bare).unify = s.unify.push (unified c) .bare :=
            unify_push (by decide) fun h => hfeed h.2
          rw [unified_of_ne hreturn] at hpush
          simpa [hreturn] using hpush

/-- The line feed of a carriage return adds nothing to the unified form. -/
theorem unify_step_lineFeed {s : State} (hreturn : s.AtReturn) :
    (s.step kind '\n').unify = s.unify := by
  obtain ⟨rows, row, cell, mode⟩ := s
  rcases hreturn with hmode | ⟨hmode, hhead⟩
  · obtain rfl : mode = .afterReturn := hmode
    rfl
  · obtain rfl : mode = .quoted := hmode
    -- the carriage return and its line feed are neighbours in the cell too
    have hcell : unifyNewlines (cell.reverse ++ ['\n']) = unifyNewlines cell.reverse := by
      rw [unifyNewlines_concat, List.getLast?_reverse, if_pos ⟨hhead, rfl⟩]
    simp [step, unify, push, hcell]

/-- **A character** that is not the line feed of a carriage return is one character of the unified
form, and is read alike. -/
theorem unify_step {s : State} {c : Char} (hseam : ¬(s.AtReturn ∧ c = '\n')) :
    (s.step kind c).unify = s.unify.step kind (unified c) := by
  have hquote : unified c = '"' ↔ c = '"' := by
    unfold unified
    split
    · rename_i h
      simp [h]
    · rfl
  obtain ⟨rows, row, cell, mode⟩ := s
  cases mode with
  | fresh | bare => exact unify_stepBare _ c
  | afterReturn =>
    have hfeed : c ≠ '\n' := fun h => hseam ⟨.inl rfl, h⟩
    simp only [step, if_neg hfeed]
    exact unify_stepBare _ c
  | quoted =>
    by_cases hc : c = '"'
    · subst hc
      rfl
    · have hcell : ¬(cell.head? = some '\r' ∧ c = '\n') := fun h => hseam ⟨.inr ⟨rfl, h.1⟩, h.2⟩
      have hunified : (unify ⟨rows, row, cell, .quoted⟩).step kind (unified c)
          = (unify ⟨rows, row, cell, .quoted⟩).push (unified c) .quoted :=
        if_neg fun h => hc (hquote.mp h)
      simp only [step, if_neg hc]
      exact (unify_push (by decide) hcell).trans hunified.symm
  | closing =>
    by_cases hc : c = '"'
    · subst hc
      exact unify_push (by decide) fun h => absurd h.2 (by decide)
    · have hunified : (unify ⟨rows, row, cell, .closing⟩).step kind (unified c)
          = (unify ⟨rows, row, cell, .closing⟩).stepBare kind (unified c) :=
        if_neg fun h => hc (hquote.mp h)
      simp only [step, if_neg hc]
      exact (unify_stepBare _ c).trans hunified.symm

/-- **Reading the unified form** comes to the unified state of the reader. -/
theorem read_unifyNewlines (kind : Separator) (text : Text) :
    read kind (unifyNewlines text) = (read kind text).unify := by
  induction text using List.reverseRecOn with
  | nil => rfl
  | append_singleton before c ih =>
    rw [unifyNewlines_concat, read_concat]
    by_cases hseam : before.getLast? = some '\r' ∧ c = '\n'
    · obtain ⟨hlast, rfl⟩ := hseam
      rw [if_pos ⟨hlast, rfl⟩, ih, unify_step_lineFeed ((atReturn_read kind before).mpr hlast)]
    · rw [if_neg hseam, read_concat, ih, ← unify_step]
      rwa [atReturn_read]

theorem finish_unify (s : State) : s.unify.finish = s.finish.map (List.map unifyNewlines) := by
  obtain ⟨rows, row, cell, mode⟩ := s
  cases mode <;> simp [finish, unify, endRow]

/-! ## Terminators -/

/-- A terminator outside quotes ends the row, whichever it is, if it does not complete a carriage
return before it. -/
theorem read_terminator {before : Text} (hopen : openAfter kind before) {terminator : Terminator}
    (hseam : terminator = .lf → before.getLast? ≠ some '\r') :
    read kind (before ++ terminator.text)
      = (read kind before).endRow (if terminator = .cr then .afterReturn else .fresh) := by
  have hmode : (read kind before).mode.isOpen := by
    rw [isOpen_read, hopen]
  cases terminator with
  | lf =>
    have hreturn : (read kind before).mode ≠ .afterReturn := fun h =>
      hseam rfl ((atReturn_read kind before).mp (.inl h))
    exact (read_concat kind before '\n').trans (step_lineFeed_open hmode hreturn)
  | cr => exact (read_concat kind before '\r').trans (step_return_open hmode)
  | crlf =>
    have hreturn : read kind (before ++ ['\r']) = (read kind before).endRow .afterReturn :=
      (read_concat kind before '\r').trans (step_return_open hmode)
    rw [Terminator.text, List.append_cons, read_concat, hreturn]
    rfl

theorem rows_terminator {before after : Text} (hopen : openAfter kind before)
    {terminator : Terminator} (hfits : terminator.Fits before after) :
    Table.rows kind (before ++ terminator.text ++ after)
      = ((read kind before).endRow .fresh).rows.reverse ++ Table.rows kind after := by
  have hread := read_terminator hopen hfits.1
  have hcoherent := coherent_read kind (before ++ terminator.text)
  rw [Table.rows, List.foldl_append]
  change (after.foldl (step kind) (read kind (before ++ terminator.text))).finish = _
  rw [hread] at hcoherent ⊢
  have hsettled : ((read kind before).endRow
      (if terminator = .cr then .afterReturn else .fresh)).Settled := by
    cases terminator <;> simp [Settled, endRow]
  have hahead : ((read kind before).endRow
      (if terminator = .cr then .afterReturn else .fresh)).mode = .afterReturn →
      after.head? ≠ some '\n' := by
    have hafter := hfits.2
    cases terminator <;> simp [endRow, hafter]
  exact finish_foldl_settled hcoherent hsettled hahead

/-! ## Line ends in cells -/

/-- All characters of cells that the reader has kept, in their order. -/
def held (s : State) : Text :=
  (s.rows.reverse.flatten ++ s.row.reverse ++ [s.cell.reverse]).flatten

end State

/-- The line ends among some characters. -/
def lineEnds (text : Text) : Text :=
  text.filter fun c => c = '\r' || c = '\n'

@[simp] theorem lineEnds_append (a b : Text) : lineEnds (a ++ b) = lineEnds a ++ lineEnds b :=
  List.filter_append a b

/-- The characters inside quotes, of those whose positions are marked. -/
def inQuotes (marks : List Mark) : Text :=
  (marks.filter fun mark => !mark.2).map Prod.fst

namespace State

variable {kind : Separator}

theorem held_push (s : State) (c : Char) (mode : Mode) : (s.push c mode).held = s.held ++ [c] := by
  simp [held, push]

theorem held_endCell (s : State) : s.endCell.held = s.held := by
  simp [held, endCell]

theorem held_endRow (s : State) (mode : Mode) : (s.endRow mode).held = s.held := by
  simp [held, endRow]

theorem lineEnds_stepBare (kind : Separator) (s : State) (c : Char) :
    lineEnds (s.stepBare kind c).held = lineEnds s.held := by
  rcases stepBare_cases kind s c with
    ⟨-, -, h⟩ | ⟨-, h⟩ | ⟨-, h⟩ | ⟨-, h⟩ | ⟨hfeed, hreturn, h⟩
  · rw [h]
    rfl
  · rw [h, held_endCell]
  · rw [h, held_endRow]
  · rw [h, held_endRow]
  · simp [h, held_push, lineEnds, hfeed, hreturn]

/-- A line end comes into a cell only where quotes are open, and there always. -/
theorem lineEnds_step (kind : Separator) (s : State) (c : Char) :
    lineEnds (s.step kind c).held
      = lineEnds s.held ++ if s.mode.isOpen then [] else lineEnds [c] := by
  rcases step_cases kind s c with
    ⟨hopen, -, -, h⟩ | ⟨hmode, -, h⟩ | ⟨hmode, -, h⟩ | ⟨hmode, hc, h⟩ | ⟨hmode, -, h⟩
  · rw [h, lineEnds_stepBare, if_pos hopen, List.append_nil]
  · rw [h, hmode]
    simp [Mode.isOpen, held]
  · rw [h, hmode, held_push]
    simp [Mode.isOpen, lineEnds]
  · rw [h, hmode, hc]
    simp [Mode.isOpen, held, lineEnds]
  · rw [h, hmode, held_push, lineEnds_append]
    rfl

theorem lineEnds_foldl {s : State} (hs : s.Coherent kind) (text : Text) :
    lineEnds (text.foldl (step kind) s).held
      = lineEnds s.held ++ lineEnds (inQuotes (marks kind s.mode.isOpen text)) := by
  induction text generalizing s with
  | nil => exact (List.append_nil _).symm
  | cons c text ih =>
    rw [List.foldl_cons, ih (coherent_step hs c), lineEnds_step, isOpen_step hs, marks,
      List.append_assoc]
    cases s.mode.isOpen with
    | true => rfl
    | false => rw [if_neg Bool.false_ne_true, ← lineEnds_append]; rfl

/-- At the end of the text, what the reader has kept is what stands in the cells. -/
theorem Coherent.flatten_finish {s : State} (hs : s.Coherent kind) :
    s.finish.flatten.flatten = s.held := by
  obtain ⟨rows, row, cell, mode⟩ := s
  cases mode with
  | fresh =>
    obtain ⟨rfl, rfl⟩ : row = [] ∧ cell = [] := hs.empty (.inl rfl)
    simp [finish, held]
  | afterReturn =>
    obtain ⟨rfl, rfl⟩ : row = [] ∧ cell = [] := hs.empty (.inr rfl)
    simp [finish, held]
  | bare | quoted | closing => simp [finish, held, endRow]

end State

theorem rows_unifyNewlines (kind : Separator) (text : Text) :
    rows kind (unifyNewlines text) = (rows kind text).map (List.map unifyNewlines) := by
  have hread := congrArg State.finish (State.read_unifyNewlines kind text)
  rwa [State.finish_unify] at hread

/-- **Line ends are alike.** Writing a line feed for every line end of a text, and reading it then,
writes one for every line end of the cells. So terminators outside quotes are interchangeable: one
may stand for another wherever no quote is open and both fit. And only line ends inside quotes reach
the cells, all of them and in their order. -/
theorem parse_unifyNewlines (text : Text) (kind : Separator) :
    (parse (unifyNewlines text) kind false).rows
        = (parse text kind false).rows.map (List.map unifyNewlines) ∧
      (∀ (before after : Text) (a b : Terminator), openAfter kind before →
        a.Fits before after → b.Fits before after →
        parse (before ++ a.text ++ after) kind false
          = parse (before ++ b.text ++ after) kind false) ∧
      lineEnds (parse text kind false).rows.flatten.flatten
        = lineEnds (inQuotes (marked kind text)) := by
  refine ⟨rows_unifyNewlines kind text, ?_, ?_⟩
  · intro before after a b hopen ha hb
    rw [parse, parse, State.rows_terminator hopen ha, State.rows_terminator hopen hb]
  · have hheld : lineEnds (rows kind text).flatten.flatten = lineEnds (State.read kind text).held :=
      congrArg lineEnds (State.coherent_read kind text).flatten_finish
    rw [marked_eq_marks]
    exact hheld.trans (State.lineEnds_foldl (State.coherent_start kind) text)

/-- Line ends of both kinds inside quotes, and just after such a carriage return a line feed outside
them, for which a carriage return may stand. -/
theorem parse_unifyNewlines_quoted :
    let before : Text := ['"', '\r', '"']
    let after : Text := ['"', '\r', '\n', '"', '\r']
    openAfter .comma before ∧ Terminator.lf.Fits before after ∧ Terminator.cr.Fits before after ∧
      (parse (unifyNewlines (before ++ Terminator.lf.text ++ after)) .comma false).rows
        = [[['\n']], [['\n']]] ∧
      parse (before ++ Terminator.lf.text ++ after) .comma false
        = parse (before ++ Terminator.cr.text ++ after) .comma false ∧
      lineEnds (parse (before ++ Terminator.lf.text ++ after) .comma false).rows.flatten.flatten
        = ['\r', '\r', '\n'] := by
  intro before after
  have hopen : openAfter .comma before := by decide
  have hlf : Terminator.lf.Fits before after := ⟨by simp [before], by simp⟩
  have hcr : Terminator.cr.Fits before after := ⟨by simp, by simp [after]⟩
  obtain ⟨hrows, hterminator, hends⟩ :=
    parse_unifyNewlines (before ++ Terminator.lf.text ++ after) .comma
  exact ⟨hopen, hlf, hcr, hrows, hterminator before after .lf .cr hopen hlf hcr,
    hends.trans (by decide)⟩

end Rowwise.Table
