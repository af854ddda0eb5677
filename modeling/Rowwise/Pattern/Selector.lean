import Rowwise.Number.Decimal
import Rowwise.Table.Dataset

/-!
# Selectors

A selector picks a cell of a row: by zero-based position if it is a run of digits with an
optional sign, otherwise by the name of a header, without regard to case.
-/

namespace Rowwise

/-- The headers and the cells that one line is rendered from. -/
structure Context where
  headers : List Text
  row : Row

/-- A selector that has been told apart. -/
inductive Selector
  /-- A position; none for a number that is no position of any row. -/
  | position (index : Option Nat)
  /-- A header name in lower case. -/
  | header (name : Text)
  deriving DecidableEq

namespace Selector

/-- Positions are below this bound. -/
def positionBound : Nat := 0x8000000000000000

/-- The sign of a text (the flag says whether it is negative) and what follows it. -/
def signed (text : Text) : Bool × Text :=
  match text with
  | '-' :: rest => (true, rest)
  | '+' :: rest => (false, rest)
  | _ => (false, text)

/-- Tells positions from names. -/
def ofText (text : Text) : Selector :=
  let (negative, digits) := signed text
  if digits ≠ [] ∧ digits.all Char.isDigit then
    let value := Number.readDigits 0 digits
    .position (if value < positionBound ∧ (negative → value = 0) then some value else none)
  else .header (Text.lower text)

/-- A number in decimal is told to be that position, if it is one. -/
theorem ofText_digitsText (n : Nat) :
    ofText (Number.digitsText n) = .position (if n < positionBound then some n else none) := by
  obtain ⟨c, rest, hdigits⟩ := List.exists_cons_of_ne_nil (Number.digitsText_ne_nil n)
  have hc : c.isDigit := Number.isDigit_of_mem_digitsText (hdigits ▸ List.mem_cons_self)
  have hsigned : signed (Number.digitsText n) = (false, Number.digitsText n) := by
    rw [hdigits, signed]
    · rintro more ⟨⟩
      exact absurd hc (by decide)
    · rintro more ⟨⟩
      exact absurd hc (by decide)
  have hall : (Number.digitsText n).all Char.isDigit :=
    List.all_eq_true.mpr fun d hd => Number.isDigit_of_mem_digitsText hd
  simp [ofText, hsigned, hall, Number.digitsText_ne_nil]

/-- Whether a header has the name, as it stands or in lower case. -/
def names (name header : Text) : Bool :=
  header == name || Text.lower header == name

/-- The position that a selector means under some headers. -/
def index? (selector : Selector) (headers : List Text) : Option Nat :=
  match selector with
  | .position index => index
  | .header name => headers.findIdx? (names name)

/-- The selected cell. -/
def cell? (selector : Selector) (context : Context) : Option Text :=
  (selector.index? context.headers).bind (context.row[·]?)

end Selector

end Rowwise
