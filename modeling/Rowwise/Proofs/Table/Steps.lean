import Rowwise.Table.Reader

/-!
# Table — Steps

What the reader of comma-separated text does with single characters and with runs of them. The
modes in which no quote is open (`Mode.Outside`) differ only in two look-aheads: a line feed after
a carriage return, and a quote after a closing quote. Everywhere else they step alike, and the
lemmas here say how.
-/

namespace Rowwise.Table

/-- No quote is open, and a line feed would end a row. -/
def Mode.Outside : Mode → Prop
  | .fresh | .bare | .closing => True
  | .afterReturn | .quoted => False

namespace State

/-- The reader after some comma-separated text. -/
def run (s : State) (text : Text) : State :=
  text.foldl (step .comma) s

@[simp] theorem run_nil (s : State) : s.run [] = s := rfl

@[simp] theorem run_cons (s : State) (c : Char) (text : Text) :
    s.run (c :: text) = (s.step .comma c).run text := rfl

@[simp] theorem run_append (s : State) (a b : Text) : s.run (a ++ b) = (s.run a).run b :=
  List.foldl_append

/-- A character other than a quote is read alike in all modes outside quotes. -/
theorem step_outside {s : State} (hmode : s.mode.Outside) {c : Char} (hc : c ≠ '"') :
    s.step .comma c = s.stepBare .comma c := by
  obtain ⟨rows, row, cell, mode⟩ := s
  cases mode with
  | fresh | bare => rfl
  | closing => exact if_neg hc
  | afterReturn | quoted => exact hmode.elim

theorem step_separator {s : State} (hmode : s.mode.Outside) :
    s.step .comma ',' = s.endCell := by
  rw [step_outside hmode (by decide)]
  rfl

theorem step_lineFeed {s : State} (hmode : s.mode.Outside) :
    s.step .comma '\n' = s.endRow .fresh := by
  rw [step_outside hmode (by decide)]
  rfl

theorem step_return {s : State} (hmode : s.mode.Outside) :
    s.step .comma '\r' = s.endRow .afterReturn := by
  rw [step_outside hmode (by decide)]
  rfl

/-- **The look-ahead after a carriage return**: only a line feed can tell that a row ended with
one and not with a line feed. -/
theorem finish_run_afterReturn (rows : List Row) {text : Text} (hseam : text.head? ≠ some '\n') :
    (run ⟨rows, [], [], .afterReturn⟩ text).finish = (run ⟨rows, [], [], .fresh⟩ text).finish := by
  cases text with
  | nil => rfl
  | cons c text =>
    have hc : c ≠ '\n' := by simpa using hseam
    have hstep : step .comma ⟨rows, [], [], .afterReturn⟩ c = step .comma ⟨rows, [], [], .fresh⟩ c := by
      simp only [step, if_neg hc]
      rfl
    rw [run_cons, run_cons, hstep]

end State

end Rowwise.Table
