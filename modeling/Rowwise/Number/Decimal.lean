import Rowwise.Text.Basic

/-!
# Decimal numbers

Exact decimal numbers, the digits of naturals, and the grammar in which users write numbers:

```text
number   := [sign] (digits ['.' digits?] | '.' digits) [('e' | 'E') [sign] digits]
          | [sign] ('inf' | 'infinity')        -- in any case
```
-/

namespace Rowwise

namespace Number

/-- A power of two. -/
def powerOfTwo (exponent : Nat) : Nat :=
  Nat.pow 2 exponent

/-- A power of ten. -/
def powerOfTen (exponent : Nat) : Nat :=
  Nat.pow 10 exponent

/-- The decimal digits of a natural number. -/
def digitsText (n : Nat) : Text :=
  Nat.toDigits 10 n

/-- An integer in decimal, with `-` for a negative one. -/
def integerText (n : Int) : Text :=
  if n < 0 then '-' :: digitsText n.natAbs else digitsText n.natAbs

/-- The value of a digit. -/
def digitValue (c : Char) : Nat :=
  c.toNat - '0'.toNat

/-- The number that a run of digits goes on to, with `start` before it. -/
def readDigits (start : Nat) (digits : Text) : Nat :=
  digits.foldl (fun value c => 10 * value + digitValue c) start

theorem digitsText_ne_nil (n : Nat) : digitsText n ≠ [] :=
  Nat.toDigits_ne_nil

theorem isDigit_of_mem_digitsText {n : Nat} {c : Char} (h : c ∈ digitsText n) : c.isDigit :=
  Nat.isDigit_of_mem_toDigits (by decide) (by decide) h

/-- The digits of a number read as the number. -/
@[simp] theorem readDigits_digitsText (n : Nat) : readDigits 0 (digitsText n) = n :=
  Nat.ofDigitChars_ten_toDigits

end Number

/-- The number `digits · 10 ^ exponent`, with a sign. -/
structure Decimal where
  negative : Bool
  digits : Nat
  exponent : Int
  deriving DecidableEq, Repr

/-- What a user can write for a number: a decimal, or an infinity. -/
inductive Numeral
  | decimal (value : Decimal)
  | infinite (negative : Bool)
  deriving DecidableEq, Repr

namespace Numeral

/-- Takes a leading sign off; the flag says whether it was `-`. -/
def sign (text : Text) : Bool × Text :=
  match text with
  | '-' :: rest => (true, rest)
  | '+' :: rest => (false, rest)
  | _ => (false, text)

/-- The exponent that follows the digits of a decimal, if the text ends after it. -/
def exponent? (text : Text) : Option Int :=
  match text with
  | [] => some 0
  | c :: rest =>
    let (negative, digits) := sign rest
    if (c = 'e' ∨ c = 'E') ∧ digits ≠ [] ∧ digits.all Char.isDigit then
      let value : Int := Number.readDigits 0 digits
      some (if negative then -value else value)
    else none

/-- A decimal without its sign. -/
def unsigned? (negative : Bool) (text : Text) : Option Numeral :=
  let whole := text.takeWhile Char.isDigit
  let rest := text.dropWhile Char.isDigit
  let fraction := match rest with
    | '.' :: more => more.takeWhile Char.isDigit
    | _ => []
  let tail := match rest with
    | '.' :: more => more.dropWhile Char.isDigit
    | _ => rest
  if whole = [] ∧ fraction = [] then none
  else
    (exponent? tail).map fun exponent =>
      .decimal ⟨negative, Number.readDigits (Number.readDigits 0 whole) fraction,
        exponent - fraction.length⟩

/-- The number that a text writes, if it writes one. -/
def ofText? (text : Text) : Option Numeral :=
  let (negative, rest) := sign text
  let word := rest.map Char.toLower
  if word = ['i', 'n', 'f'] ∨ word = ['i', 'n', 'f', 'i', 'n', 'i', 't', 'y'] then
    some (.infinite negative)
  else unsigned? negative rest

end Numeral

end Rowwise
