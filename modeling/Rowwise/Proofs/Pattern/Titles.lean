import Rowwise.Proofs.Pattern.Calls
import Rowwise.Proofs.Regex.Words
import Rowwise.Proofs.Text.Title

/-!
# Pattern — Titles

What `title` answers: the text with every match of `\w\S*` capitalised (`Regex.replaceWith_words`),
which is the text in title case block by block.
-/

namespace Rowwise

namespace Regex

open Rowwise.Text (isWord isSpace capitalize title title_append title_word)

/-- The text with every match replaced by what a function makes of it. -/
def replaceWith (regex : Regex) (f : Text → Text) (text : Text) : Text :=
  let (found, tail) := regex.findAll text
  (found.flatMap fun m => m.before ++ f (m.group regex.names (.number 0))) ++ tail

/-- **Capitalising the words** is title case. -/
theorem replaceWith_words (text : Text) : words.replaceWith capitalize text = title text := by
  rw [replaceWith, findAll_words]
  induction text using runs.induct isWord (!isSpace ·) with
  | case1 text hnone =>
    have htext : ∀ c ∈ text, isWord c = false := by
      simpa [List.dropWhile_eq_nil_iff] using hnone
    have htitle := title_append htext []
    rw [List.append_nil, Text.title_nil, List.append_nil] at htitle
    rw [runs_of_nil hnone, htitle]
    rfl
  | case2 text c after hsome ih =>
    have hbefore : ∀ d ∈ text.takeWhile (!isWord ·), isWord d = false := fun d hd => by
      simpa using List.mem_takeWhile_imp hd
    have hc : isWord c := by
      simpa [hsome] using List.head?_dropWhile_not (!isWord ·) text
    have hsplit : text.takeWhile (!isWord ·) ++ c :: after = text := by
      rw [← hsome, List.takeWhile_append_dropWhile]
    rw [runs_of_cons hsome]
    conv_rhs => rw [← hsplit, title_append hbefore, title_word hc, ← ih]
    simp [Match.group]

end Regex

namespace Function

open Rowwise.Text (IsAscii blocks isSpace titleBlock)

variable {text : Text} {result : CallResult}

theorem gives_title :
    Gives "title".toList [text] result ↔ result = .ok (Text.title text) :=
  gives_iff rfl fun _ => rfl

theorem gives_lower :
    Gives "lower".toList [text] result ↔ result = .ok (Text.lower text) :=
  gives_iff rfl fun _ => rfl

/-- **Title case works run by run.** `title` capitalises all that the expression `\w\S*` finds, and
this is the text block by block: white space in place, and every maximal run of other characters with
its first word character in upper case and the rest behind that in lower case. In ASCII, title case
is done with once, and it does not show in lower case. -/
theorem title_run_by_run (text : Text) :
    ∃ titled, (∀ result, Gives "title".toList [text] result ↔ result = .ok titled) ∧
      (∃ regex, Regex.ofText? Regex.wordText = some regex ∧
        titled = regex.replaceWith Text.capitalize text) ∧
      titled = (blocks isSpace text).flatMap titleBlock ∧
      (IsAscii text → Gives "title".toList [titled] (.ok titled) ∧
        ∃ lowered, Gives "lower".toList [text] (.ok lowered) ∧
          Gives "lower".toList [titled] (.ok lowered)) := by
  refine ⟨Text.title text, fun _ => gives_title, ?_, Text.title_eq_blocks text, fun hascii => ?_⟩
  · exact ⟨Regex.words, Regex.ofText?_wordText, (Regex.replaceWith_words text).symm⟩
  · have hagain : Gives "title".toList [Text.title text] (.ok (Text.title text)) :=
      gives_title.mpr (by rw [Text.title_title hascii])
    have hlower : Gives "lower".toList [Text.title text] (.ok (Text.lower text)) :=
      gives_lower.mpr (by rw [Text.lower_title hascii])
    exact ⟨hagain, _, gives_lower.mpr rfl, hlower⟩

/-- Punctuation before and inside words. -/
theorem title_run_by_run_punctuated :
    IsAscii "hELLO (wORLD-wide)".toList ∧
      Gives "title".toList ["hELLO (wORLD-wide)".toList] (.ok "Hello (World-wide)".toList) ∧
      Gives "title".toList ["Hello (World-wide)".toList] (.ok "Hello (World-wide)".toList) := by
  obtain ⟨titled, hgives, -, hblocks, hascii⟩ := title_run_by_run "hELLO (wORLD-wide)".toList
  have hall : IsAscii "hELLO (wORLD-wide)".toList := by
    simp [IsAscii]
  have htitled : titled = "Hello (World-wide)".toList := by
    rw [hblocks]
    decide +kernel
  rw [htitled] at hgives hascii
  exact ⟨hall, (hgives _).mpr rfl, (hascii hall).1⟩

end Function

end Rowwise
