import Rowwise.Text.Utf8

/-!
# UTF-16

Text as 16-bit units in either byte order. Characters beyond U+FFFF are pairs of surrogates; a
surrogate without its partner is a fault, and so is a byte or a first half left over at the end.
-/

namespace Rowwise.Utf16

/-- The order of the two bytes of a unit. -/
inductive ByteOrder
  | little
  | big
  deriving DecidableEq

/-! ### Encoding -/

/-- The units of a character. -/
def encodeChar (c : Char) : List Nat :=
  let code := c.toNat
  if code < 0x10000 then [code]
  else [0xD800 + (code - 0x10000) / 0x400, 0xDC00 + (code - 0x10000) % 0x400]

/-- The bytes of a unit. -/
def unitBytes (order : ByteOrder) (unit : Nat) : Bytes :=
  let high := UInt8.ofNat (unit / 0x100)
  let low := UInt8.ofNat (unit % 0x100)
  match order with
  | .little => [low, high]
  | .big => [high, low]

/-- The bytes of a text. -/
def encode (order : ByteOrder) (text : Text) : Bytes :=
  (text.flatMap encodeChar).flatMap (unitBytes order)

/-! ### Decoding -/

/-- A unit, or a byte left over at the end. -/
inductive Unit16
  | unit (value : Nat)
  | half

/-- The units of some bytes. -/
def units (order : ByteOrder) : Bytes → List Unit16
  | [] => []
  | [_] => [.half]
  | a :: b :: rest =>
    let value := match order with
      | .little => b.toNat * 0x100 + a.toNat
      | .big => a.toNat * 0x100 + b.toNat
    .unit value :: units order rest

/-- Whether a unit is the first half of a pair. -/
def isLeading (unit : Nat) : Bool :=
  0xD800 ≤ unit && unit < 0xDC00

/-- Whether a unit is the second half of a pair. -/
def isTrailing (unit : Nat) : Bool :=
  0xDC00 ≤ unit && unit < 0xE000

/-- The characters of some units after a first half, if there is one. A fault is nothing. -/
def items : (leading : Option Nat) → List Unit16 → List (Option Char)
  | none, [] => []
  | some _, [] => [none]
  | _, .half :: _ => [none]
  | none, .unit unit :: rest =>
    if isLeading unit then items (some unit) rest
    else if isTrailing unit then none :: items none rest
    else some (Char.ofNat unit) :: items none rest
  | some lead, .unit unit :: rest =>
    if isTrailing unit then
      some (Char.ofNat (0x10000 + (lead - 0xD800) * 0x400 + (unit - 0xDC00))) :: items none rest
    else if isLeading unit then none :: items (some unit) rest
    else none :: some (Char.ofNat unit) :: items none rest

/-- The characters and faults of some bytes. -/
def decode (order : ByteOrder) (bytes : Bytes) : List (Option Char) :=
  items none (units order bytes)

end Rowwise.Utf16
