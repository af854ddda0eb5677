import Rowwise.Number.Decimal

/-!
# Double-precision numbers

The finite and infinite values of the 64-bit binary format, held exactly, with the correctly
rounded reading of a decimal and the conversions to integers. All arithmetic is on integers.
-/

namespace Rowwise

/-- A double-precision number. A finite one is `significand · 2 ^ exponent` with a sign. -/
inductive Binary64
  | finite (negative : Bool) (significand : Nat) (exponent : Int)
  | infinite (negative : Bool)
  deriving DecidableEq, Repr

namespace Binary64

/-- Zero. -/
def zero : Binary64 := .finite false 0 0

/-- The least exponent of a finite number. -/
def minExponent : Int := -1074

/-- The greatest exponent of a finite number with a full significand. -/
def maxExponent : Int := 971

/-- The number of bits of a significand. -/
def precision : Nat := 53

/-! ### Rounding -/

/-- The quotient to the nearest natural number, a tie to the even one. -/
def roundDiv (num den : Nat) : Nat :=
  let quotient := num / den
  let excess := 2 * (num % den)
  if excess < den ∨ (excess = den ∧ quotient % 2 = 0) then quotient else quotient + 1

/-- The quotient `num / den` divided by `2 ^ exponent`, rounded. -/
def scaleRound (num den : Nat) (exponent : Int) : Nat :=
  if 0 ≤ exponent then roundDiv num (den * Number.powerOfTwo exponent.toNat)
  else roundDiv (num * Number.powerOfTwo (-exponent).toNat) den

/-- Whether `num / den ≥ 2 ^ exponent`. -/
def reaches (num den : Nat) (exponent : Int) : Bool :=
  if 0 ≤ exponent then den * Number.powerOfTwo exponent.toNat ≤ num
  else den ≤ num * Number.powerOfTwo (-exponent).toNat

/-- The exponent at which the positive quotient `num / den` fills the significand. -/
def fittingExponent (num den : Nat) : Int :=
  let top : Int := (num.log2 : Int) - den.log2
  let magnitude := if reaches num den top then top else top - 1
  max (magnitude - (precision - 1)) minExponent

/-- The number nearest to the quotient `num / den`, a tie to the even significand. -/
def ofRatio (negative : Bool) (num den : Nat) : Binary64 :=
  if num = 0 then .finite negative 0 0
  else
    let exponent := fittingExponent num den
    let significand := scaleRound num den exponent
    let carried := significand == Number.powerOfTwo precision
    let exponent := if carried then exponent + 1 else exponent
    let significand := if carried then Number.powerOfTwo (precision - 1) else significand
    if exponent > maxExponent then .infinite negative else .finite negative significand exponent

/-- Beyond this power of ten every positive decimal is infinite, and below its inverse zero. -/
def decimalRange : Int := 400

/-- The number nearest to a decimal. -/
def ofDecimal (d : Decimal) : Binary64 :=
  let length : Int := (Number.digitsText d.digits).length
  if d.digits = 0 then .finite d.negative 0 0
  else if d.exponent > decimalRange then .infinite d.negative
  else if length + d.exponent < -decimalRange then .finite d.negative 0 0
  else if 0 ≤ d.exponent then ofRatio d.negative (d.digits * Number.powerOfTen d.exponent.toNat) 1
  else ofRatio d.negative d.digits (Number.powerOfTen (-d.exponent).toNat)

/-- The number that a text writes, if it writes one. -/
def ofText? (text : Text) : Option Binary64 :=
  (Numeral.ofText? text).map fun
    | .decimal d => ofDecimal d
    | .infinite negative => .infinite negative

/-! ### Order and integer parts -/

/-- A finite number in units of the smallest positive one. -/
def units (negative : Bool) (significand : Nat) (exponent : Int) : Int :=
  let magnitude : Int := significand * Number.powerOfTwo (exponent - minExponent).toNat
  if negative then -magnitude else magnitude

/-- One, in units of the smallest positive number. -/
def unitsPerOne : Int := Number.powerOfTwo 1074

/-- The order of values. -/
def le : Binary64 → Binary64 → Bool
  | .infinite true, _ => true
  | _, .infinite false => true
  | .infinite false, .finite .. | .infinite false, .infinite true => false
  | .finite .., .infinite true => false
  | .finite s m e, .finite s' m' e' => units s m e ≤ units s' m' e'

/-- The greatest integer that is not above a finite number. -/
def floor? : Binary64 → Option Int
  | .finite negative significand exponent =>
    some (Int.fdiv (units negative significand exponent) unitsPerOne)
  | .infinite _ => none

/-- The least integer that is not below a finite number. -/
def ceil? : Binary64 → Option Int
  | .finite negative significand exponent =>
    some (-Int.fdiv (-units negative significand exponent) unitsPerOne)
  | .infinite _ => none

/-- The least 64-bit integer. -/
def minInteger : Int := -0x8000000000000000

/-- The greatest 64-bit integer. -/
def maxInteger : Int := 0x7FFFFFFFFFFFFFFF

/-- The 64-bit integer nearest to `n`. -/
def clampInteger (n : Int) : Int :=
  max minInteger (min maxInteger n)

/-- The integer part, cut to the range of 64-bit integers. -/
def toInteger : Binary64 → Int
  | .finite negative significand exponent =>
    clampInteger (Int.tdiv (units negative significand exponent) unitsPerOne)
  | .infinite true => minInteger
  | .infinite false => maxInteger

end Binary64

end Rowwise
