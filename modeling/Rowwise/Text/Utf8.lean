import Rowwise.Text.Basic

/-!
# UTF-8

The encoding of text, and a decoder for any bytes. The decoder splits its input into characters
and faults; a fault is the longest run of bytes that could still have begun a character, or a
single byte that cannot begin one.
-/

namespace Rowwise

/-- A sequence of bytes. -/
abbrev Bytes := List UInt8

namespace Utf8

/-! ### Encoding -/

/-- A byte that continues a character, with six bits of it. -/
def continuation (bits : Nat) : UInt8 :=
  UInt8.ofNat (0x80 + bits % 0x40)

/-- The bytes of a character. -/
def encodeChar (c : Char) : Bytes :=
  let code := c.toNat
  if code < 0x80 then [UInt8.ofNat code]
  else if code < 0x800 then [UInt8.ofNat (0xC0 + code / 0x40), continuation code]
  else if code < 0x10000 then
    [UInt8.ofNat (0xE0 + code / 0x1000), continuation (code / 0x40), continuation code]
  else
    [UInt8.ofNat (0xF0 + code / 0x40000), continuation (code / 0x1000),
      continuation (code / 0x40), continuation code]

/-- The bytes of a text. -/
def encode (text : Text) : Bytes :=
  text.flatMap encodeChar

/-! ### Decoding -/

/-- What the decoder finds next. -/
inductive Item
  /-- A character. -/
  | char (c : Char)
  /-- So many bytes that form no character. -/
  | invalid (length : Nat)
  /-- So many bytes at the end that could have gone on to be a character. -/
  | incomplete (length : Nat)
  deriving DecidableEq

/-- Where the decoder stands: between characters, or inside one that has begun with `read` bytes
holding the bits `value`, that needs `needed` more bytes, and whose next byte lies from `low` to
`high`. -/
inductive State
  | ready
  | inside (read needed value : Nat) (low high : UInt8)
  deriving DecidableEq

/-- A byte between two characters. -/
def lead (byte : UInt8) : List Item × State :=
  let b := byte.toNat
  if b < 0x80 then ([.char (Char.ofNat b)], .ready)
  else if b < 0xC2 then ([.invalid 1], .ready)
  else if b < 0xE0 then ([], .inside 1 1 (b - 0xC0) 0x80 0xBF)
  else if b = 0xE0 then ([], .inside 1 2 0 0xA0 0xBF)
  else if b = 0xED then ([], .inside 1 2 0xD 0x80 0x9F)
  else if b < 0xF0 then ([], .inside 1 2 (b - 0xE0) 0x80 0xBF)
  else if b = 0xF0 then ([], .inside 1 3 0 0x90 0xBF)
  else if b < 0xF4 then ([], .inside 1 3 (b - 0xF0) 0x80 0xBF)
  else if b = 0xF4 then ([], .inside 1 3 4 0x80 0x8F)
  else ([.invalid 1], .ready)

/-- One more byte. -/
def step : State → UInt8 → List Item × State
  | .ready, byte => lead byte
  | .inside read needed value low high, byte =>
    if low ≤ byte ∧ byte ≤ high then
      let value := value * 0x40 + (byte.toNat - 0x80)
      if needed ≤ 1 then ([.char (Char.ofNat value)], .ready)
      else ([], .inside (read + 1) (needed - 1) value 0x80 0xBF)
    else
      let (items, state) := lead byte
      (.invalid read :: items, state)

/-- The characters and faults of the bytes that follow. -/
def itemsFrom : State → Bytes → List Item
  | .ready, [] => []
  | .inside read .., [] => [.incomplete read]
  | state, byte :: bytes =>
    let (items, state) := step state byte
    items ++ itemsFrom state bytes

/-- The characters and faults of some bytes. -/
def items (bytes : Bytes) : List Item :=
  itemsFrom .ready bytes

/-- The character that stands for bytes that form none. -/
def replacement : Char := Char.ofNat 0xFFFD

/-- Decoding with U+FFFD in the place of every fault. -/
def decodeLossy (bytes : Bytes) : Text :=
  (items bytes).map fun
    | .char c => c
    | _ => replacement

/-- Why bytes are no UTF-8, with the index of the first offending byte. -/
inductive Fault
  | invalid (length index : Nat)
  | incomplete (index : Nat)
  deriving DecidableEq

namespace Fault

/-- The message for the user. -/
def message : Fault → String
  | invalid length index =>
    "invalid utf-8 sequence of " ++ toString length ++ " bytes from index " ++ toString index
  | incomplete index => "incomplete utf-8 byte sequence from index " ++ toString index

end Fault

/-- The text of items that hold no fault; `index` bytes stand before them. -/
def textOf (index : Nat) : List Item → Except Fault Text
  | [] => .ok []
  | .char c :: more => (textOf (index + c.utf8Size) more).map (c :: ·)
  | .invalid length :: _ => .error (.invalid length index)
  | .incomplete _ :: _ => .error (.incomplete index)

/-- Decoding that refuses faults. -/
def decode (bytes : Bytes) : Except Fault Text :=
  textOf 0 (items bytes)

end Utf8

end Rowwise
