import Mathlib.Data.List.TakeWhile
import Rowwise.Proofs.Number.Rounding
import Rowwise.Proofs.Pattern.Calls
import Rowwise.Proofs.Pattern.Selection

/-!
# Pattern — Ranges

The functions that take a range of characters out of a text. Their positions are written in
decimal, are read as doubles and are cut to words, and none of this shows: in every text short
enough for its length to be a double, a range is where its integers put it (`ranges_exact`). What
an argument is read as stands for the integer that it writes (`stands_toInteger`), and an integer
that stands for another means the same position, since both are beyond the text or they are equal.
-/

namespace Rowwise

open Rowwise.Selector (Denotes Digits)

namespace Text

theorem trimLeft_of_forall {text : Text} (h : ∀ c ∈ text, ¬ isSpace c) : trimLeft text = text := by
  cases text with
  | nil => rfl
  | cons c rest => exact List.dropWhile_cons_of_neg (h c List.mem_cons_self)

/-- There is nothing to trim where there is no white space. -/
theorem trim_of_forall {text : Text} (h : ∀ c ∈ text, ¬ isSpace c) : trim text = text := by
  have hreverse : trimLeft text.reverse = text.reverse :=
    trimLeft_of_forall fun c hc => h c (List.mem_reverse.mp hc)
  rw [trim, trimLeft_of_forall h, trimRight, hreverse, List.reverse_reverse]

end Text

/-! ## The integer of an argument -/

namespace Numeral

variable {c : Char} {digits text : Text} {value : Int}

theorem toNat_of_isDigit (h : c.isDigit) : 48 ≤ c.toNat ∧ c.toNat ≤ 57 := by
  simpa [Char.isDigit, UInt32.le_iff_toNat_le] using h

theorem not_isSpace_of_isDigit (h : c.isDigit) : ¬ Text.isSpace c := by
  have hcode := toNat_of_isDigit h
  simp only [Text.isSpace, Bool.or_eq_true, Bool.and_eq_true, decide_eq_true_eq, beq_iff_eq]
  omega

theorem not_isSpace_of_denotes (h : Denotes text value) : ∀ c ∈ text, ¬ Text.isSpace c := by
  cases h with
  | unsigned h => exact fun c hc => not_isSpace_of_isDigit (h.isDigit c hc)
  | plus h =>
    exact List.forall_mem_cons.mpr
      ⟨by decide, fun c hc => not_isSpace_of_isDigit (h.isDigit c hc)⟩
  | minus h =>
    exact List.forall_mem_cons.mpr
      ⟨by decide, fun c hc => not_isSpace_of_isDigit (h.isDigit c hc)⟩

/-- A digit is no letter in lower case. -/
theorem toLower_of_isDigit (h : c.isDigit) : c.toLower = c := by
  have hcode := toNat_of_isDigit h
  have hupper : ¬ (c.val ≥ 'A'.val ∧ c.val ≤ 'Z'.val) := by
    simp only [ge_iff_le, UInt32.le_iff_toNat_le]
    change ¬ (65 ≤ c.toNat ∧ c.toNat ≤ 90)
    omega
  exact dif_neg hupper

/-- Digits are read to their end, with no fraction and no exponent. -/
theorem unsigned?_of_digits (negative : Bool) (h : Digits digits) :
    unsigned? negative digits = some (.decimal ⟨negative, Number.magnitude digits, 0⟩) := by
  have hwhole : digits.takeWhile Char.isDigit = digits := List.takeWhile_eq_self_iff.mpr h.isDigit
  have hrest : digits.dropWhile Char.isDigit = [] := List.dropWhile_eq_nil_iff.mpr h.isDigit
  have hread : Number.readDigits (Number.readDigits 0 digits) [] = Number.magnitude digits :=
    Number.readDigits_zero digits
  simp [unsigned?, hwhole, hrest, h.ne_nil, exponent?, hread]

theorem ofText?_of_denotes (h : Denotes text value) : ∃ negative n,
    ofText? text = some (.decimal ⟨negative, n, 0⟩) ∧ value = Binary64.signed negative n := by
  obtain ⟨hdigits, hvalue⟩ := h.signed
  have hsign : sign text = Selector.signed text := rfl
  generalize Selector.signed text = parts at hdigits hvalue hsign
  obtain ⟨negative, digits⟩ := parts
  refine ⟨negative, Number.magnitude digits, ?_, ?_⟩
  · have hlower : digits.map Char.toLower = digits :=
      (List.map_congr_left fun c hc => toLower_of_isDigit (hdigits.isDigit c hc)).trans
        (List.map_id digits)
    have hword : ¬ (digits = ['i', 'n', 'f'] ∨
        digits = ['i', 'n', 'f', 'i', 'n', 'i', 't', 'y']) := by
      have hletter : 'i' ∉ digits := fun hi => absurd (hdigits.isDigit 'i' hi) (by decide)
      rintro (rfl | rfl) <;> exact hletter List.mem_cons_self
    simp only [ofText?, hsign, hlower, if_neg hword]
    exact unsigned?_of_digits negative hdigits
  · rw [hvalue]
    cases negative <;> rfl

end Numeral

namespace Binary64

/-- A whole decimal is rounded as a quotient by one. -/
theorem ofDecimal_whole (negative : Bool) (n : Nat) :
    ofDecimal ⟨negative, n, 0⟩ = ofRatio negative n 1 := by
  have hrange : decimalRange = 400 := rfl
  rw [ofDecimal]
  dsimp only
  split
  · rename_i hzero
    rw [ofRatio, if_pos hzero]
  · have hone : n * Number.powerOfTen (0 : Int).toNat = n := Nat.mul_one n
    rw [if_neg (by omega), if_neg (by omega), if_pos (Int.le_refl 0), hone]

end Binary64

namespace Function

variable {m n : Int} {text arg : Text} {value : Int}

/-- An argument is read as the integer that it writes, rounded to a double. -/
theorem toNumber?_of_denotes (h : Denotes arg value) : ∃ negative n,
    toNumber? arg = some (Binary64.ofRatio negative n 1) ∧ value = Binary64.signed negative n := by
  obtain ⟨negative, n, hread, hvalue⟩ := Numeral.ofText?_of_denotes h
  have htrim : Text.trim arg = arg := Text.trim_of_forall (Numeral.not_isSpace_of_denotes h)
  have hne : arg ≠ [] := by
    rintro rfl
    exact absurd hread (by simp [Numeral.ofText?, Numeral.sign, Numeral.unsigned?])
  refine ⟨negative, n, ?_, hvalue⟩
  rw [toNumber?, htrim, if_neg hne, Binary64.ofText?, hread, Option.map_some]
  exact congrArg some (Binary64.ofDecimal_whole negative n)

/-- What an argument is read as stands for the integer that it writes. -/
theorem stands_toInteger (h : Denotes arg value) : Binary64.Stands (toInteger arg) value := by
  obtain ⟨negative, n, hnumber, rfl⟩ := toNumber?_of_denotes h
  rw [toInteger, hnumber]
  exact Binary64.stands_toInteger_ofRatio negative n

theorem toInteger_zero : toInteger ['0'] = 0 :=
  (stands_toInteger (.unsigned ⟨by decide, List.all_eq_true.mp rfl⟩)).eq_of_lt
    (by decide) (by decide)

/-! ## Positions -/

/-- The position in a text that an integer means: a negative one counts from the end, and what lies
outside is moved to the nearer end. -/
def positionIn (text : Text) (x : Int) : Nat :=
  (min (max (if x < 0 then text.length + x else x) 0) text.length).toNat

/-- How many of the characters after a position an integer takes. -/
def countFrom (text : Text) (first : Nat) (y : Int) : Nat :=
  (min (max y 0) (text.length - first)).toNat

/-- Integers that stand for one another mean one position. -/
theorem position_of_stands (h : Binary64.Stands m n) (htext : text.length < 2 ^ 53) :
    position m text.length = positionIn text n := by
  have hbound : Binary64.exactBound = 2 ^ 53 := rfl
  simp only [position, positionIn]
  cases h with
  | same => split <;> omega
  | above =>
    rw [if_neg (by omega), if_neg (by omega)]
    omega
  | below =>
    rw [if_pos (by omega), if_pos (by omega)]
    omega

/-- Integers that stand for one another take the same characters. -/
theorem take_of_stands (h : Binary64.Stands m n) (htext : text.length < 2 ^ 53) (first : Nat) :
    (text.drop first).take m.toNat = (text.drop first).take (countFrom text first n) := by
  have hbound : Binary64.exactBound = 2 ^ 53 := rfl
  have hlength : (text.drop first).length = text.length - first := List.length_drop
  rw [List.take_eq_take_iff, hlength, countFrom]
  cases h <;> omega

/-! ## Ranges -/

section Gives

variable {start stop : Text} {result : CallResult}

theorem gives_slice :
    Gives "slice".toList [text, start] result ↔ result = slice text start none :=
  gives_iff rfl fun _ => rfl

theorem gives_slice_stop :
    Gives "slice".toList [text, start, stop] result ↔ result = slice text start (some stop) :=
  gives_iff rfl fun _ => rfl

theorem gives_substring :
    Gives "substring".toList [text, start] result ↔ result = substring text start none :=
  gives_iff rfl fun _ => rfl

theorem gives_substring_stop :
    Gives "substring".toList [text, start, stop] result ↔
      result = substring text start (some stop) :=
  gives_iff rfl fun _ => rfl

end Gives

/-- **A range is where its integers put it.** In a text of fewer than `2 ^ 53` characters an argument
means the integer it writes, however many digits that has: a slice is what lies from one position
up to another, a substring so many characters from a position on, and without a second argument
both go to the end. Whatever an argument is, numeral or not, the slice up to it and the slice from
it make up the text. -/
theorem ranges_exact (text : Text) :
    (text.length < 2 ^ 53 → ∀ a x, Denotes a x →
      Gives "slice".toList [text, a] (.ok (text.drop (positionIn text x))) ∧
      Gives "substring".toList [text, a] (.ok (text.drop (positionIn text x))) ∧
      ∀ b y, Denotes b y →
        Gives "slice".toList [text, a, b]
          (.ok (text.extract (positionIn text x) (positionIn text y))) ∧
        Gives "substring".toList [text, a, b]
          (.ok ((text.drop (positionIn text x)).take
            (countFrom text (positionIn text x) y)))) ∧
    ∀ k, ∃ front back, Gives "slice".toList [text, ['0'], k] (.ok front) ∧
      Gives "slice".toList [text, k] (.ok back) ∧ front ++ back = text := by
  refine ⟨fun htext a x ha => ?_, fun k => ?_⟩
  · have hfirst := position_of_stands (stands_toInteger ha) htext
    have hall : text.take text.length = text := List.take_length
    refine ⟨?_, ?_, fun b y hb => ⟨?_, ?_⟩⟩
    · rw [gives_slice, slice, hfirst, hall]
    · rw [gives_substring, substring, hfirst]
    · have hlast := position_of_stands (stands_toInteger hb) htext
      rw [gives_slice_stop, slice, hfirst, hlast, List.drop_take, List.extract_eq_take_drop]
    · have htake := take_of_stands (stands_toInteger hb) htext
      rw [gives_substring_stop, substring, hfirst, htake]
  · refine ⟨_, _, gives_slice_stop.mpr rfl, gives_slice.mpr rfl, ?_⟩
    have hstart : position (toInteger ['0']) text.length = 0 := by
      rw [toInteger_zero]
      exact Nat.zero_min _
    have hall : text.take text.length = text := List.take_length
    rw [hstart, hall, List.drop_zero, List.take_append_drop]

/-- Four characters, of one to four bytes. -/
def widening : Text :=
  ['a', 'é', '€', '😀']

/-- A start before the text, an end counted from its end, and a number that is zero in a word. -/
theorem ranges_exact_widening :
    widening.length < 2 ^ 53 ∧ Denotes ['-', '9'] (-9) ∧ Denotes ['-', '1'] (-1) ∧
      Denotes Prepared.overflowing 0x10000000000000000 ∧
      Gives "slice".toList [widening, ['-', '9'], ['-', '1']] (.ok ['a', 'é', '€']) ∧
      Gives "slice".toList [widening, Prepared.overflowing, ['-', '1']] (.ok []) ∧
      Gives "substring".toList [widening, ['-', '1'], Prepared.overflowing] (.ok ['😀']) := by
  have hlength : widening.length < 2 ^ 53 := by decide
  have hbefore : Denotes ['-', '9'] (-9) := .minus ⟨by decide, List.all_eq_true.mp rfl⟩
  have hlast : Denotes ['-', '1'] (-1) := .minus ⟨by decide, List.all_eq_true.mp rfl⟩
  have hlarge : Denotes Prepared.overflowing 0x10000000000000000 :=
    .unsigned ⟨by decide, List.all_eq_true.mp rfl⟩
  refine ⟨hlength, hbefore, hlast, hlarge, ?_, ?_, ?_⟩
  · exact (((ranges_exact widening).1 hlength _ _ hbefore).2.2 _ _ hlast).1
  · exact (((ranges_exact widening).1 hlength _ _ hlarge).2.2 _ _ hlast).1
  · exact (((ranges_exact widening).1 hlength _ _ hlast).2.2 _ _ hlarge).2

end Function

end Rowwise
