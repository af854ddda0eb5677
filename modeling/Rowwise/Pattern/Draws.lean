import Rowwise.Number.Decimal
import Rowwise.Text.Hex

/-!
# Random draws

Functions that answer differently from call to call take numbers from a stream of draws. Whoever
renders chooses the stream; with the same stream, the same is rendered.
-/

namespace Rowwise

/-- A stream of random numbers, of which some have been used. -/
structure Draws where
  source : Nat → Nat
  used : Nat

namespace Draws

/-- The next number. -/
def next (draws : Draws) : Nat × Draws :=
  (draws.source draws.used, { draws with used := draws.used + 1 })

/-- A whole number from `least` to `most`. -/
def integer (least most : Int) (draws : Draws) : Int × Draws :=
  let (n, draws) := draws.next
  (least + n % (most - least + 1), draws)

/-- So many hexadecimal digits of a number, the lowest ones. -/
def hexText (width n : Nat) : Text :=
  (List.range width).map fun i => Hex.lowerDigit (n / Number.powerOfTwo (4 * (width - 1 - i)) % 16)

/-- A random identifier: a version-4 UUID in lower case. -/
def uuid (draws : Draws) : Text × Draws :=
  let (n, draws) := draws.next
  let variant := Hex.lowerDigit (8 + n / Number.powerOfTwo 60 % 4)
  let above (bits : Nat) := n / Number.powerOfTwo bits
  let text := hexText 8 (above 96) ++ '-' :: hexText 4 (above 80) ++ '-' :: '4' ::
    hexText 3 (above 64) ++ '-' :: variant :: hexText 3 (above 48) ++ '-' :: hexText 12 n
  (text, draws)

/-! ### Seeded streams -/

/-- Spreads the bits of a word over all of it. -/
def mix (word : UInt64) : UInt64 :=
  let word := (word ^^^ (word >>> 30)) * 0xBF58476D1CE4E5B9
  let word := (word ^^^ (word >>> 27)) * 0x94D049BB133111EB
  word ^^^ (word >>> 31)

/-- The stream that a seed gives, with numbers of 128 bits. -/
def seeded (seed : Nat) : Draws :=
  let word (i : Nat) := mix (UInt64.ofNat seed + UInt64.ofNat (i + 1) * 0x9E3779B97F4A7C15)
  ⟨fun i => (word (2 * i)).toNat * UInt64.size + (word (2 * i + 1)).toNat, 0⟩

end Draws

end Rowwise
