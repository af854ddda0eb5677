import Mathlib.Data.List.TakeWhile
import Rowwise.CommandLine.Commands
import Rowwise.Proofs.Table.Writing
import Rowwise.Server.Upload

/-!
# Table — The first line

The separator that is guessed for a text, and how much of the text decides about it. A line feed
ends the line that is looked at, with a carriage return before it or without, so that no later row
counts (`detect_terminated`). A carriage return alone ends a row for the reader but not the line
for the guess: what comes after it, up to the next line feed, counts as well.
-/

namespace Rowwise.Separator

open Rowwise.Table (Terminator)

variable {line rest : Text} {terminator : Terminator}

theorem firstLine_cons {c : Char} (h : c ≠ '\n') : firstLine (c :: rest) = c :: firstLine rest :=
  List.takeWhile_cons_of_pos (by simpa using h)

theorem firstLine_lineFeed (rest : Text) : firstLine ('\n' :: rest) = [] :=
  List.takeWhile_cons_of_neg (by simp)

/-- A part without a line feed goes on to the first line of what follows it. -/
theorem firstLine_append (h : ∀ c ∈ line, c ≠ '\n') (rest : Text) :
    firstLine (line ++ rest) = line ++ firstLine rest :=
  List.takeWhile_append_of_pos fun c hc => by simpa using h c hc

theorem firstLine_of_forall (h : ∀ c ∈ line, c ≠ '\n') : firstLine line = line :=
  List.takeWhile_eq_self_iff.mpr fun c hc => by simpa using h c hc

/-- Tab is guessed if there are strictly more tabs than commas. -/
theorem detect_eq_tab_iff {text : Text} :
    detect text = .tab ↔ (firstLine text).count ',' < (firstLine text).count '\t' := by
  unfold detect
  split <;> simp_all

/-- Texts are told alike if tabs and commas are as frequent in their first lines. -/
theorem detect_congr {text other : Text}
    (htabs : (firstLine text).count '\t' = (firstLine other).count '\t')
    (hcommas : (firstLine text).count ',' = (firstLine other).count ',') :
    detect text = detect other := by
  rw [detect, htabs, hcommas]
  rfl

/-- **A line feed ends the line**, and a carriage return before it is no tab and no comma. -/
theorem detect_append_terminator (hline : ∀ c ∈ line, c ≠ '\n') (hfeed : terminator ≠ .cr)
    (rest : Text) : detect (line ++ terminator.text ++ rest) = detect line := by
  rw [List.append_assoc]
  cases terminator with
  | cr => exact absurd rfl hfeed
  | lf =>
    have hfirst : firstLine (line ++ (Terminator.lf.text ++ rest)) = firstLine line := by
      rw [firstLine_append hline, Terminator.text, List.singleton_append, firstLine_lineFeed,
        List.append_nil, firstLine_of_forall hline]
    exact detect_congr (by rw [hfirst]) (by rw [hfirst])
  | crlf =>
    have hfirst : firstLine (line ++ (Terminator.crlf.text ++ rest)) = firstLine line ++ ['\r'] := by
      rw [firstLine_append hline, Terminator.text, List.cons_append, firstLine_cons (by decide),
        List.singleton_append, firstLine_lineFeed, firstLine_of_forall hline]
    exact detect_congr (by rw [hfirst]; simp) (by rw [hfirst]; simp)

/-- **The guess looks as far as the first line feed.** Of a line that ends in one, with a carriage
return or without, only the line itself decides: tab if it has strictly more tabs than commas. So
whatever the later rows are, the separator of an upload and of a run on the command line is that of
the line. After a carriage return alone, what stands before the next line feed decides as well. -/
theorem detect_terminated (hline : ∀ c ∈ line, c ≠ '\r' ∧ c ≠ '\n') (rest : Text) :
    (detect line = .tab ↔ line.count ',' < line.count '\t') ∧
    (∀ terminator : Terminator, terminator ≠ .cr →
      detect (line ++ terminator.text ++ rest) = detect line ∧
      (∀ decoders bytes encoding,
        Charset.read decoders bytes = .ok ⟨encoding, line ++ terminator.text ++ rest⟩ →
          ∀ pattern header, Server.Upload.ofBytes decoders bytes pattern none header
            = .ok ⟨encoding, line ++ terminator.text ++ rest, pattern, detect line, header⟩) ∧
      CommandLine.chooseSeparator none (line ++ terminator.text ++ rest)
        = CommandLine.chooseSeparator none line) ∧
    (detect (line ++ Terminator.cr.text ++ rest) = .tab ↔
      line.count ',' + (firstLine rest).count ','
        < line.count '\t' + (firstLine rest).count '\t') := by
  have hfeeds : ∀ c ∈ line, c ≠ '\n' := fun c hc => (hline c hc).2
  refine ⟨?_, fun terminator hfeed => ?_, ?_⟩
  · rw [detect_eq_tab_iff, firstLine_of_forall hfeeds]
  · have hdetect := detect_append_terminator hfeeds hfeed rest
    refine ⟨hdetect, fun decoders bytes encoding hread pattern header => ?_, ?_⟩
    · rw [Server.Upload.ofBytes, hread, ← hdetect]
      rfl
    · rw [CommandLine.chooseSeparator, CommandLine.chooseSeparator, Option.getD_none,
        Option.getD_none, hdetect]
  · have hfirst : firstLine (line ++ Terminator.cr.text ++ rest)
        = line ++ '\r' :: firstLine rest := by
      rw [List.append_assoc, firstLine_append hfeeds, Terminator.text, List.singleton_append,
        firstLine_cons (by decide)]
    rw [detect_eq_tab_iff, hfirst]
    simp

/-- Rows with more tabs below a header with commas. -/
theorem detect_terminated_mixed :
    (∀ c ∈ ['a', ',', 'b'], c ≠ '\r' ∧ c ≠ '\n') ∧
      detect (['a', ',', 'b'] ++ Terminator.crlf.text ++ ['x', '\t', 'y', '\t', 'z']) = .comma ∧
      detect (['a', ',', 'b'] ++ Terminator.cr.text ++ ['x', '\t', 'y', '\t', 'z']) = .tab := by
  have hline : ∀ c ∈ ['a', ',', 'b'], c ≠ '\r' ∧ c ≠ '\n' := by simp
  obtain ⟨-, hfeed, hreturn⟩ := detect_terminated hline ['x', '\t', 'y', '\t', 'z']
  exact ⟨hline, (hfeed .crlf (by decide)).1, hreturn.mpr (by decide)⟩

/-- A carriage return ends a row of the table, and yet a later row changes the guess. -/
theorem detect_lone_return :
    Table.rows .comma (['a', ',', 'b'] ++ Terminator.cr.text ++ ['x', '\t', 'y', '\t', 'z'])
      = [[['a'], ['b']], [['x', '\t', 'y', '\t', 'z']]] ∧
    ¬ ∀ (line : Text) (terminator : Terminator) (rest : Text),
      (∀ c ∈ line, c ≠ '\r' ∧ c ≠ '\n') → (terminator = .cr → rest.head? ≠ some '\n') →
        detect (line ++ terminator.text ++ rest) = detect line := by
  refine ⟨by decide, fun h => ?_⟩
  exact absurd (h ['a', ',', 'b'] .cr ['x', '\t', 'y', '\t', 'z'] (by simp) (by simp)) (by decide)

end Rowwise.Separator
