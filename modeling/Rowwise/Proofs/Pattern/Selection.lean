import Mathlib.Data.Nat.Digits.Defs
import Mathlib.Tactic.Ring
import Rowwise.Pattern.Prepared

/-!
# Pattern — Selection

Which cell a reference to a column is rendered as. A selector that denotes an integer is a position
and nothing else; every other selector is the name of a header. The two kinds share no text and
leave none out (`isNumber_iff`), and the line of a reference follows from either
(`renderLine_selects`).

The integer of a selector is its positional value, stated apart from the left-to-right fold that
reads it (`readDigits_zero`). Digit strings are of any length, so the integer is compared with the
bound of positions only after it has been read in full (`ofText_of_denotes`); what lies beyond that
bound lies beyond every row as well.
-/

namespace Rowwise

namespace Number

/-! ## The value of a run of digits -/

/-- The positional value of some digits, the last one counting units. -/
def magnitude (digits : Text) : Nat :=
  Nat.ofDigits 10 (digits.reverse.map digitValue)

theorem magnitude_cons (c : Char) (digits : Text) :
    magnitude (c :: digits) = digitValue c * 10 ^ digits.length + magnitude digits := by
  simp only [magnitude, List.map_reverse, List.map_cons, Nat.ofDigits_reverse_cons,
    List.length_map]
  ring

/-- Reading from the left shifts what came before past all the digits ahead. -/
theorem readDigits_eq (start : Nat) (digits : Text) :
    readDigits start digits = start * 10 ^ digits.length + magnitude digits := by
  induction digits generalizing start with
  | nil => simp [readDigits, magnitude]
  | cons c rest ih =>
    calc readDigits start (c :: rest)
        = readDigits (10 * start + digitValue c) rest := rfl
      _ = (10 * start + digitValue c) * 10 ^ rest.length + magnitude rest := ih _
      _ = start * 10 ^ (c :: rest).length + magnitude (c :: rest) := by
          rw [magnitude_cons, List.length_cons, pow_succ]
          ring

theorem readDigits_zero (digits : Text) : readDigits 0 digits = magnitude digits := by
  rw [readDigits_eq, Nat.zero_mul, Nat.zero_add]

end Number

namespace Selector

open Rowwise.Number (magnitude)

/-! ## Names and numbers -/

/-- An optional sign and digits: the selectors that are positions. -/
def IsNumber (text : Text) : Prop :=
  ∃ digits, digits ≠ [] ∧ (∀ c ∈ digits, c.isDigit) ∧
    (text = digits ∨ text = '+' :: digits ∨ text = '-' :: digits)

theorem signed_eq (text : Text) :
    text = (signed text).2 ∨ text = '+' :: (signed text).2 ∨ text = '-' :: (signed text).2 := by
  unfold signed
  split
  · exact .inr (.inr rfl)
  · exact .inr (.inl rfl)
  · exact .inl rfl

/-- What is no number is told to be a name. -/
theorem ofText_of_not_isNumber {text : Text} (h : ¬ IsNumber text) :
    ofText text = .header (Text.lower text) := by
  have hdigits : ¬ ((signed text).2 ≠ [] ∧ (signed text).2.all Char.isDigit) := by
    rintro ⟨hne, hall⟩
    exact h ⟨(signed text).2, hne, List.all_eq_true.mp hall, signed_eq text⟩
  simp only [ofText, if_neg hdigits]

/-! ## The integer of a selector -/

/-- One or more digits. -/
structure Digits (digits : Text) : Prop where
  ne_nil : digits ≠ []
  isDigit : ∀ c ∈ digits, c.isDigit

/-- A text denotes an integer: digits with an optional sign, however many and whatever zeros they
start with. -/
inductive Denotes : Text → Int → Prop
  | unsigned {digits : Text} (h : Digits digits) : Denotes digits (magnitude digits)
  | plus {digits : Text} (h : Digits digits) : Denotes ('+' :: digits) (magnitude digits)
  | minus {digits : Text} (h : Digits digits) : Denotes ('-' :: digits) (-magnitude digits)

/-- The numbers are the texts that denote something. -/
theorem isNumber_iff {text : Text} : IsNumber text ↔ ∃ value, Denotes text value := by
  constructor
  · rintro ⟨digits, hne, hall, rfl | rfl | rfl⟩
    · exact ⟨_, .unsigned ⟨hne, hall⟩⟩
    · exact ⟨_, .plus ⟨hne, hall⟩⟩
    · exact ⟨_, .minus ⟨hne, hall⟩⟩
  · rintro ⟨value, h | h | h⟩
    · exact ⟨_, h.ne_nil, h.isDigit, .inl rfl⟩
    · exact ⟨_, h.ne_nil, h.isDigit, .inr (.inl rfl)⟩
    · exact ⟨_, h.ne_nil, h.isDigit, .inr (.inr rfl)⟩

/-- The integer of some digits with their sign told apart. -/
def signedValue : Bool × Text → Int
  | (true, digits) => -magnitude digits
  | (false, digits) => magnitude digits

/-- Digits have no sign in front of them. -/
theorem Digits.signed {digits : Text} (h : Digits digits) : signed digits = (false, digits) := by
  unfold Selector.signed
  split
  · exact absurd (h.isDigit '-' List.mem_cons_self) (by decide)
  · exact absurd (h.isDigit '+' List.mem_cons_self) (by decide)
  · rfl

theorem Denotes.signed {text : Text} {value : Int} (h : Denotes text value) :
    Digits (signed text).2 ∧ value = signedValue (signed text) := by
  cases h with
  | unsigned h =>
    rw [h.signed]
    exact ⟨h, rfl⟩
  | plus h => exact ⟨h, rfl⟩
  | minus h => exact ⟨h, rfl⟩

/-- **What denotes an integer is told to be a position**: that integer, unless it is negative or
past the bound of positions. -/
theorem ofText_of_denotes {text : Text} {value : Int} (h : Denotes text value) :
    ofText text =
      .position (if 0 ≤ value ∧ value < positionBound then some value.toNat else none) := by
  obtain ⟨hdigits, rfl⟩ := h.signed
  have hread : (signed text).2 ≠ [] ∧ (signed text).2.all Char.isDigit :=
    ⟨hdigits.ne_nil, List.all_eq_true.mpr hdigits.isDigit⟩
  simp only [ofText, if_pos hread, Number.readDigits_zero, position.injEq]
  obtain ⟨negative, digits⟩ := signed text
  dsimp only
  cases negative with
  | false => simp [signedValue]
  | true =>
    -- Minus zero is the one position with a minus sign.
    by_cases hzero : magnitude digits = 0
    · simp [signedValue, hzero]
    · rw [if_neg (by simp [hzero]), if_neg (by simp only [signedValue]; omega)]

/-! ## The column of a name -/

/-- A header has the name of a selector: it is the lower-cased selector, or its own lower case
is. -/
def Names (selector header : Text) : Prop :=
  header = Text.lower selector ∨ Text.lower header = Text.lower selector

/-- The first column whose header has the name of a selector. -/
structure FirstNamed (headers : List Text) (selector : Text) (column : Nat) : Prop where
  lt : column < headers.length
  named : Names selector headers[column]
  first : ∀ header ∈ headers.take column, ¬ Names selector header

theorem index?_eq_some_iff {selector : Text} (h : ¬ IsNumber selector) {headers : List Text}
    {column : Nat} :
    (ofText selector).index? headers = some column ↔ FirstNamed headers selector column := by
  have hnames (header : Text) : names (Text.lower selector) header ↔ Names selector header := by
    simp [names, Names]
  rw [ofText_of_not_isNumber h, index?, List.findIdx?_eq_some_iff_getElem]
  constructor
  · rintro ⟨hlt, hnamed, hfirst⟩
    refine ⟨hlt, (hnames _).mp hnamed, fun header hheader hn => ?_⟩
    obtain ⟨earlier, he, rfl⟩ := List.mem_take_iff_getElem.mp hheader
    exact hfirst earlier (by omega) ((hnames _).mpr hn)
  · rintro ⟨hlt, hnamed, hfirst⟩
    refine ⟨hlt, (hnames _).mpr hnamed, fun earlier he hn => ?_⟩
    have hearlier : headers[earlier] ∈ headers.take column :=
      List.mem_take_iff_getElem.mpr ⟨earlier, by omega, rfl⟩
    exact hfirst _ hearlier ((hnames _).mp hn)

/-! ## The selected cell -/

section Cell

variable {selector : Text} {context : Context} {value : Int}

theorem cell?_of_denotes (h : Denotes selector value) {column : Nat}
    (hcolumn : column < context.row.length) (hbound : context.row.length ≤ positionBound)
    (hvalue : value = column) : (ofText selector).cell? context = some context.row[column] := by
  have hposition : 0 ≤ value ∧ value < positionBound := by omega
  rw [ofText_of_denotes h, if_pos hposition, cell?, index?, Option.bind_some, hvalue,
    Int.toNat_natCast, List.getElem?_eq_getElem hcolumn]

/-- An integer that is no position of the row selects nothing, whichever side it is off. -/
theorem cell?_of_denotes_outside (h : Denotes selector value)
    (hvalue : value < 0 ∨ context.row.length ≤ value) :
    (ofText selector).cell? context = none := by
  rw [ofText_of_denotes h, cell?, index?]
  split
  · rw [Option.bind_some, List.getElem?_eq_none (by omega)]
  · rfl

theorem cell?_of_firstNamed (h : ¬ IsNumber selector) {column : Nat}
    (hcolumn : column < context.row.length) (hnamed : FirstNamed context.headers selector column) :
    (ofText selector).cell? context = some context.row[column] := by
  rw [cell?, (index?_eq_some_iff h).mpr hnamed, Option.bind_some,
    List.getElem?_eq_getElem hcolumn]

theorem cell?_of_not_firstNamed (h : ¬ IsNumber selector)
    (hnone : ∀ column < context.row.length, ¬ FirstNamed context.headers selector column) :
    (ofText selector).cell? context = none := by
  rw [cell?, Option.bind_eq_none_iff]
  intro column hcolumn
  refine List.getElem?_eq_none (Nat.le_of_not_lt fun hlt => ?_)
  exact hnone column hlt ((index?_eq_some_iff h).mp hcolumn)

end Cell

end Selector

namespace Prepared

open Rowwise.Selector (Denotes FirstNamed isNumber_iff)

/-! ## The line of one reference -/

/-- A reference is rendered as the selected cell, or as `ERR` if there is none. -/
theorem renderLine_column (selector : Text) (context : Context) (draws : Draws) :
    (ofProgram [.column selector]).renderLine context draws =
      (match (Selector.ofText selector).cell? context with
        | some cell => ⟨cell, 0⟩
        | none => ⟨errText, 1⟩, draws) := by
  rw [renderLine, ofProgram, prepareSegments, renderNodes, prepareSegment, renderNode]
  cases (Selector.ofText selector).cell? context with
  | some cell => simp [prepareSegments, renderNodes, Rendered.append, Rendered.ok, Rendered.empty]
  | none => simp [prepareSegments, renderNodes, Rendered.append, Rendered.err, Rendered.empty]

/-- **A reference selects by its integer or by a header, never by both.** If the selector denotes
an integer, the line is the cell at that position, and `ERR` with one substitution if the integer
is negative or not below the length of the row, however large it is. If it denotes none, the line
is the cell of the first column whose header has the name, and `ERR` with one substitution if there
is no such column or the row does not reach it. The bound of positions is also one of the lengths of
rows, which only a position needs. -/
theorem renderLine_selects (selector : Text) (context : Context) (draws : Draws) :
    (∀ value, Denotes selector value →
      (context.row.length ≤ Selector.positionBound →
        ∀ (column : Nat) (h : column < context.row.length), value = column →
          (ofProgram [.column selector]).renderLine context draws =
            (⟨context.row[column], 0⟩, draws)) ∧
      (value < 0 ∨ context.row.length ≤ value →
        (ofProgram [.column selector]).renderLine context draws = (⟨errText, 1⟩, draws))) ∧
    ((∀ value, ¬ Denotes selector value) →
      (∀ (column : Nat) (h : column < context.row.length),
        FirstNamed context.headers selector column →
          (ofProgram [.column selector]).renderLine context draws =
            (⟨context.row[column], 0⟩, draws)) ∧
      ((∀ column < context.row.length, ¬ FirstNamed context.headers selector column) →
        (ofProgram [.column selector]).renderLine context draws = (⟨errText, 1⟩, draws))) := by
  rw [renderLine_column]
  refine ⟨fun value hvalue => ⟨?_, ?_⟩, fun hnone => ?_⟩
  · intro hlength column hcolumn heq
    rw [Selector.cell?_of_denotes hvalue hcolumn hlength heq]
  · intro houtside
    rw [Selector.cell?_of_denotes_outside hvalue houtside]
  have hname : ¬ Selector.IsNumber selector := by
    rw [isNumber_iff, not_exists]
    exact hnone
  refine ⟨?_, ?_⟩
  · intro column hcolumn hnamed
    rw [Selector.cell?_of_firstNamed hname hcolumn hnamed]
  · intro hmissing
    rw [Selector.cell?_of_not_firstNamed hname hmissing]

/-- Two cells under three headers, of which the last two have one name. -/
def raggedContext : Context :=
  ⟨[['b'], ['Ä'], ['ä']], [['x'], ['y']]⟩

/-- Two to the sixty-fourth, which is zero in a word. -/
def overflowing : Text :=
  ['0', '1', '8', '4', '4', '6', '7', '4', '4', '0', '7', '3', '7', '0', '9', '5', '5', '1', '6',
    '1', '6']

/-- Minus zero with a leading zero is the first position, two to the sixty-fourth is none, and a
name is looked up without regard to case, first column first. -/
theorem renderLine_selects_ragged :
    raggedContext.row.length ≤ Selector.positionBound ∧
      Denotes ['-', '0', '0'] 0 ∧ Denotes overflowing 0x10000000000000000 ∧
      (∀ value, ¬ Denotes ['Ä'] value) ∧ FirstNamed raggedContext.headers ['Ä'] 1 ∧
      (ofProgram [.column ['-', '0', '0']]).renderLine raggedContext ⟨id, 0⟩
        = (⟨['x'], 0⟩, ⟨id, 0⟩) ∧
      (ofProgram [.column overflowing]).renderLine raggedContext ⟨id, 0⟩
        = (⟨errText, 1⟩, ⟨id, 0⟩) ∧
      (ofProgram [.column ['Ä']]).renderLine raggedContext ⟨id, 0⟩
        = (⟨['y'], 0⟩, ⟨id, 0⟩) := by
  have hlength : raggedContext.row.length ≤ Selector.positionBound := by decide
  have hzero : Denotes ['-', '0', '0'] 0 := .minus ⟨by decide, List.all_eq_true.mp rfl⟩
  have hlarge : Denotes overflowing 0x10000000000000000 :=
    .unsigned ⟨by decide, List.all_eq_true.mp rfl⟩
  have hname : ∀ value, ¬ Denotes ['Ä'] value :=
    fun value h => absurd (h.signed.1.isDigit 'Ä' List.mem_cons_self) (by decide)
  have hfirst : FirstNamed raggedContext.headers ['Ä'] 1 := by
    refine ⟨by decide, .inr rfl, fun header hheader => ?_⟩
    obtain rfl : header = ['b'] := List.mem_singleton.mp hheader
    exact not_or.mpr ⟨by decide, by decide⟩
  refine ⟨hlength, hzero, hlarge, hname, hfirst, ?_, ?_, ?_⟩
  · exact ((renderLine_selects _ _ _).1 0 hzero).1 hlength 0 (by decide) rfl
  · exact ((renderLine_selects _ _ _).1 _ hlarge).2 (.inr (by decide))
  · exact ((renderLine_selects _ _ _).2 hname).1 1 (by decide) hfirst

end Prepared

end Rowwise
