import Rowwise.Number.Binary64

/-!
# Writing double-precision numbers

A number is written with the fewest decimal digits that read back as it, and of those with the
digits nearest to it; always positionally, never with an exponent.
-/

namespace Rowwise.Binary64

/-- The open or closed interval of the reals that round to a positive number, and the number
itself, as quotients over one denominator. -/
structure Rounding where
  low : Nat
  value : Nat
  high : Nat
  den : Nat
  closed : Bool

namespace Rounding

/-- The interval of the reals that round to `significand · 2 ^ exponent`. The gap below a power
of two is half as wide as the gap above it. -/
def of (significand : Nat) (exponent : Int) : Rounding :=
  let below :=
    if significand == Number.powerOfTwo (precision - 1) && exponent > minExponent then 1 else 2
  let up := Number.powerOfTwo exponent.toNat
  ⟨(4 * significand - below) * up, 4 * significand * up, (4 * significand + 2) * up,
    4 * Number.powerOfTwo (-exponent).toNat, significand % 2 == 0⟩

/-- Whether `n · 10 ^ exponent` lies in the interval. -/
def contains (r : Rounding) (n : Nat) (exponent : Int) : Bool :=
  let point := n * Number.powerOfTen exponent.toNat * r.den
  let scale := Number.powerOfTen (-exponent).toNat
  if r.closed then r.low * scale ≤ point && point ≤ r.high * scale
  else r.low * scale < point && point < r.high * scale

/-- The greatest multiple of `10 ^ exponent` not above the number. -/
def below (r : Rounding) (exponent : Int) : Nat :=
  r.value * Number.powerOfTen (-exponent).toNat / (r.den * Number.powerOfTen exponent.toNat)

/-- Whether the number lies at least half way from `n · 10 ^ exponent` to the next multiple. -/
def pastHalf (r : Rounding) (n : Nat) (exponent : Int) : Bool :=
  (2 * n + 1) * Number.powerOfTen exponent.toNat * r.den ≤
    2 * r.value * Number.powerOfTen (-exponent).toNat

/-- The multiple of `10 ^ exponent` in the interval that is nearest to the number. -/
def nearest? (r : Rounding) (exponent : Int) : Option Nat :=
  let n := r.below exponent
  match r.contains n exponent, r.contains (n + 1) exponent with
  | true, true => some (if r.pastHalf n exponent then n + 1 else n)
  | true, false => some n
  | false, true => some (n + 1)
  | false, false => none

/-- The first grid of powers of ten, from `exponent` downwards, with a point in the interval. -/
def search (r : Rounding) : (grids : Nat) → (exponent : Int) → Nat × Int
  | 0, exponent => (r.below exponent, exponent)
  | grids + 1, exponent =>
    match r.nearest? exponent with
    | some n => (n, exponent)
    | none => search r grids (exponent - 1)

end Rounding

/-- The digits and the power of ten of the shortest decimal that reads back. -/
def shortest (significand : Nat) (exponent : Int) : Nat × Int :=
  let r := Rounding.of significand exponent
  let top : Int := ((Number.digitsText (r.value / r.den)).length : Int)
  r.search 400 top

/-- `digits · 10 ^ exponent` without an exponent. -/
def positional (digits : Nat) (exponent : Int) : Text :=
  let text := Number.digitsText digits
  if 0 ≤ exponent then text ++ List.replicate exponent.toNat '0'
  else
    let places := (-exponent).toNat
    let text := List.replicate (places + 1 - text.length) '0' ++ text
    text.take (text.length - places) ++ '.' :: text.drop (text.length - places)

/-- The text of a number. -/
def toText : Binary64 → Text
  | .infinite negative => (if negative then ['-'] else []) ++ ['i', 'n', 'f']
  | .finite negative significand exponent =>
    let magnitude :=
      if significand = 0 then ['0']
      else
        let (digits, power) := shortest significand exponent
        positional digits power
    (if negative then ['-'] else []) ++ magnitude

end Rowwise.Binary64
