import Mathlib.Order.Bounds.Basic
import Rowwise.Proofs.Machine.Function
import Rowwise.Proofs.Pattern.Ranges

/-!
# Pattern — Occurrences

Where one text stands in another. A search from the front and one from the back, each along the
characters, meet the least and the greatest position at which the text stands
(`isLeast_of_indexOf?`, `isGreatest_of_lastIndexOf?`); a search along the bytes gives the same
answers, since its hits fall on the first bytes of characters. Either position is a place from
which the text can be taken out again (`occurrences_exact`).
-/

namespace Rowwise

namespace Text

/-- A text stands in another at a position: the characters from there on begin with it. -/
def StandsAt (needle text : Text) (position : Nat) : Prop :=
  position ≤ text.length ∧ needle <+: text.drop position

variable {c : Char} {needle text rest : Text} {i : Nat}

@[simp] theorem standsAt_zero : StandsAt needle text 0 ↔ needle <+: text := by
  simp [StandsAt]

@[simp] theorem standsAt_succ : StandsAt needle (c :: rest) (i + 1) ↔ StandsAt needle rest i := by
  simp [StandsAt]

theorem exists_standsAt_iff : (∃ i, StandsAt needle text i) ↔ needle <:+: text := by
  rw [List.infix_iff_prefix_suffix]
  constructor
  · rintro ⟨i, -, hbegins⟩
    exact ⟨text.drop i, hbegins, List.drop_suffix i text⟩
  · rintro ⟨tail, hbegins, hsuffix⟩
    refine ⟨text.length - tail.length, Nat.sub_le _ _, ?_⟩
    rwa [← List.suffix_iff_eq_drop.mp hsuffix]

/-- What stands somewhere stands at the front or behind the first character. -/
theorem infix_cons_of_standsAt_succ (h : StandsAt needle (c :: rest) (i + 1)) : needle <:+: rest :=
  exists_standsAt_iff.mp ⟨i, standsAt_succ.mp h⟩

/-! ## The two searches -/

theorem indexOf?_eq_none_iff : indexOf? needle text = none ↔ ¬ needle <:+: text := by
  induction text with
  | nil => simp [indexOf?]
  | cons c rest ih =>
    rw [indexOf?, List.infix_cons_iff, ← List.isPrefixOf_iff_prefix]
    split <;> simp_all

theorem lastIndexOf?_eq_none_iff : lastIndexOf? needle text = none ↔ ¬ needle <:+: text := by
  induction text with
  | nil => simp [lastIndexOf?]
  | cons c rest ih =>
    rw [lastIndexOf?, List.infix_cons_iff, ← List.isPrefixOf_iff_prefix]
    cases hrest : lastIndexOf? needle rest <;> simp_all

/-- **The search from the front** meets the least position where the needle stands. -/
theorem isLeast_of_indexOf? (h : indexOf? needle text = some i) :
    IsLeast {position | StandsAt needle text position} i := by
  induction text generalizing i with
  | nil =>
    rw [indexOf?, Option.ite_none_right_eq_some] at h
    obtain ⟨rfl, hzero⟩ := h
    obtain rfl := Option.some.inj hzero
    exact ⟨standsAt_zero.mpr List.prefix_rfl, fun _ _ => Nat.zero_le _⟩
  | cons c rest ih =>
    rw [indexOf?] at h
    split at h
    · next hbegins =>
      obtain rfl := Option.some.inj h
      exact ⟨standsAt_zero.mpr (List.isPrefixOf_iff_prefix.mp hbegins), fun _ _ => Nat.zero_le _⟩
    · next hbegins =>
      obtain ⟨j, hj, rfl⟩ := Option.map_eq_some_iff.mp h
      obtain ⟨hstands, hleast⟩ := ih hj
      refine ⟨standsAt_succ.mpr hstands, fun position hposition => ?_⟩
      cases position with
      | zero => exact absurd (List.isPrefixOf_iff_prefix.mpr (standsAt_zero.mp hposition)) hbegins
      | succ position => exact Nat.succ_le_succ (hleast (standsAt_succ.mp hposition))

/-- **The search from the back** meets the greatest position where the needle stands. -/
theorem isGreatest_of_lastIndexOf? (h : lastIndexOf? needle text = some i) :
    IsGreatest {position | StandsAt needle text position} i := by
  induction text generalizing i with
  | nil =>
    rw [lastIndexOf?, Option.ite_none_right_eq_some] at h
    obtain ⟨rfl, hzero⟩ := h
    obtain rfl := Option.some.inj hzero
    exact ⟨standsAt_zero.mpr List.prefix_rfl, fun _ hposition => hposition.1⟩
  | cons c rest ih =>
    rw [lastIndexOf?] at h
    split at h
    · next j hj =>
      obtain rfl := Option.some.inj h
      obtain ⟨hstands, hgreatest⟩ := ih hj
      refine ⟨standsAt_succ.mpr hstands, fun position hposition => ?_⟩
      cases position with
      | zero => exact Nat.zero_le _
      | succ position => exact Nat.succ_le_succ (hgreatest (standsAt_succ.mp hposition))
    · next hnone =>
      rw [Option.ite_none_right_eq_some, List.isPrefixOf_iff_prefix] at h
      obtain ⟨hbegins, hzero⟩ := h
      obtain rfl := Option.some.inj hzero
      refine ⟨standsAt_zero.mpr hbegins, fun position hposition => ?_⟩
      cases position with
      | zero => exact Nat.le_refl _
      | succ position =>
        exact absurd (infix_cons_of_standsAt_succ hposition) (lastIndexOf?_eq_none_iff.mp hnone)

end Text

namespace Function

open Rowwise.Number (digitsText)
open Rowwise.Selector (Denotes)
open Rowwise.Text (StandsAt)

variable {text needle : Text} {i : Nat} {result : CallResult}

/-! ## What the functions answer -/

/-- The decimal of a natural number denotes it. -/
theorem denotes_digitsText (n : Nat) : Denotes (digitsText n) n := by
  have hvalue : Number.magnitude (digitsText n) = n := by
    rw [← Number.readDigits_zero, Number.readDigits_digitsText]
  have hdenotes : Denotes (digitsText n) (Number.magnitude (digitsText n)) :=
    .unsigned ⟨Number.digitsText_ne_nil n, fun _ => Number.isDigit_of_mem_digitsText⟩
  rwa [hvalue] at hdenotes

theorem gives_indexOf : Gives "indexOf".toList [text, needle] result ↔
    result = .ok (positionText (Text.indexOf? needle text)) :=
  gives_iff rfl fun _ => rfl

theorem gives_lastIndexOf : Gives "lastIndexOf".toList [text, needle] result ↔
    result = .ok (positionText (Text.lastIndexOf? needle text)) :=
  gives_iff rfl fun _ => rfl

/-- **A text is taken out where it stands**, by its position and its length. -/
theorem gives_substring_of_standsAt (h : StandsAt needle text i) (htext : text.length < 2 ^ 53) :
    Gives "substring".toList [text, digitsText i, digitsText needle.length] (.ok needle) := by
  obtain ⟨hi, hbegins⟩ := h
  have hlength : needle.length ≤ text.length - i := List.length_drop ▸ hbegins.length_le
  have hfirst : position (toInteger (digitsText i)) text.length = i := by
    rw [position_of_stands (stands_toInteger (denotes_digitsText i)) htext, positionIn,
      if_neg (by omega)]
    omega
  have hcount : (text.drop i).take (toInteger (digitsText needle.length)).toNat = needle := by
    have hnumber : countFrom text i needle.length = needle.length := by
      rw [countFrom]
      omega
    rw [take_of_stands (stands_toInteger (denotes_digitsText needle.length)) htext, hnumber]
    exact (List.prefix_iff_eq_take.mp hbegins).symm
  rw [gives_substring_stop, substring, hfirst, hcount]

/-- **A search is exact in characters.** It gives what a machine gives that searches along the
bytes. A text that does not stand in another has no position there, and the search from the front
and the one from the back both say `-1`. One that does has a least position and a greatest one,
which they say in decimal; the empty text stands everywhere, so that these are the front and the
end. With either position and its length the text is taken out of the other one again. -/
theorem occurrences_exact (text needle : Text) :
    (∀ result,
      (Gives "indexOf".toList [text, needle] result ↔
        Machine.indexOf text needle = .ok result) ∧
      (Gives "lastIndexOf".toList [text, needle] result ↔
        Machine.lastIndexOf text needle = .ok result)) ∧
    (¬ needle <:+: text →
      Gives "indexOf".toList [text, needle] (.ok ['-', '1']) ∧
      Gives "lastIndexOf".toList [text, needle] (.ok ['-', '1'])) ∧
    (needle <:+: text → ∃ first last,
      IsLeast {i | StandsAt needle text i} first ∧ IsGreatest {i | StandsAt needle text i} last ∧
      Gives "indexOf".toList [text, needle] (.ok (digitsText first)) ∧
      Gives "lastIndexOf".toList [text, needle] (.ok (digitsText last)) ∧
      (needle = [] → first = 0 ∧ last = text.length) ∧
      (text.length < 2 ^ 53 → ∀ i, i = first ∨ i = last →
        Gives "substring".toList [text, digitsText i, digitsText needle.length] (.ok needle))) := by
  refine ⟨fun result => ⟨?_, ?_⟩, fun hnone => ⟨?_, ?_⟩, fun hsome => ?_⟩
  · rw [gives_indexOf, Machine.indexOf_eq, Except.ok.injEq, eq_comm]
  · rw [gives_lastIndexOf, Machine.lastIndexOf_eq, Except.ok.injEq, eq_comm]
  · rw [gives_indexOf, Text.indexOf?_eq_none_iff.mpr hnone, positionText]
  · rw [gives_lastIndexOf, Text.lastIndexOf?_eq_none_iff.mpr hnone, positionText]
  obtain ⟨first, hfirst⟩ := Option.ne_none_iff_exists'.mp
    (mt Text.indexOf?_eq_none_iff.mp (not_not.mpr hsome))
  obtain ⟨last, hlast⟩ := Option.ne_none_iff_exists'.mp
    (mt Text.lastIndexOf?_eq_none_iff.mp (not_not.mpr hsome))
  have hleast := Text.isLeast_of_indexOf? hfirst
  have hgreatest := Text.isGreatest_of_lastIndexOf? hlast
  refine ⟨first, last, hleast, hgreatest, ?_, ?_, ?_, ?_⟩
  · rw [gives_indexOf, hfirst, positionText]
  · rw [gives_lastIndexOf, hlast, positionText]
  · rintro rfl
    have hfront := hleast.2 (Text.standsAt_zero.mpr List.nil_prefix)
    have hend : StandsAt [] text text.length := ⟨Nat.le_refl _, List.nil_prefix⟩
    exact ⟨Nat.le_zero.mp hfront, Nat.le_antisymm hgreatest.1.1 (hgreatest.2 hend)⟩
  · rintro htext i (rfl | rfl)
    · exact gives_substring_of_standsAt hleast.1 htext
    · exact gives_substring_of_standsAt hgreatest.1 htext

/-- A palindrome of characters of two and of four bytes. -/
def palindrome : Text :=
  ['é', '😀', 'é', '😀', 'é']

/-- Two occurrences that overlap, and a text that stands nowhere. -/
theorem occurrences_exact_overlapping :
    ['é', '😀', 'é'] <:+: palindrome ∧ palindrome.length < 2 ^ 53 ∧ ¬ ['€'] <:+: palindrome ∧
      Gives "indexOf".toList [palindrome, ['é', '😀', 'é']] (.ok ['0']) ∧
      Gives "lastIndexOf".toList [palindrome, ['é', '😀', 'é']] (.ok ['2']) ∧
      Gives "substring".toList [palindrome, ['2'], ['3']] (.ok ['é', '😀', 'é']) ∧
      Gives "indexOf".toList [palindrome, ['€']] (.ok ['-', '1']) := by
  have hsome : ['é', '😀', 'é'] <:+: palindrome := by decide
  have hlength : palindrome.length < 2 ^ 53 := by decide
  have hnone : ¬ ['€'] <:+: palindrome := by decide
  obtain ⟨first, last, hleast, hgreatest, hfirst, hlast, -, htaken⟩ :=
    (occurrences_exact _ _).2.2 hsome
  obtain rfl : first = 0 :=
    Nat.le_zero.mp (hleast.2 (Text.standsAt_zero.mpr (by decide)))
  obtain rfl : last = 2 := by
    have hstands : StandsAt ['é', '😀', 'é'] palindrome 2 := ⟨by decide, by decide⟩
    have hroom : 3 ≤ palindrome.length - last := List.length_drop ▸ hgreatest.1.2.length_le
    have hfive : palindrome.length = 5 := rfl
    have := hgreatest.2 hstands
    omega
  exact ⟨hsome, hlength, hnone, hfirst, hlast, htaken hlength _ (.inr rfl),
    ((occurrences_exact _ _).2.1 hnone).1⟩

end Function

end Rowwise
