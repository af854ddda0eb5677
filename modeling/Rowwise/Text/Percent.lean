import Rowwise.Text.Hex
import Rowwise.Text.Utf8

/-!
# Percent escapes

Text in URIs: bytes outside a set of plain characters are written `%XX`. The codec for a whole
URI leaves the characters with a meaning in URIs alone, in both directions.
-/

namespace Rowwise.Percent

/-- The characters with a meaning in URIs. -/
def reserved : List Char := [';', ',', '/', '?', ':', '@', '&', '=', '+', '$', '#']

/-- The marks that are never escaped. -/
def marks : List Char := ['-', '_', '.', '!', '~', '*', '\'', '(', ')']

/-- Which characters are kept: the ASCII letters and digits, the marks, and the `extra` ones. -/
def isPlain (extra : List Char) (c : Char) : Bool :=
  c.isAlphanum || c ∈ marks || c ∈ extra

/-! ### Escaping -/

/-- The escape of a byte. -/
def escapeByte (byte : UInt8) : Text :=
  ['%', Hex.upperDigit (byte.toNat / 16), Hex.upperDigit (byte.toNat % 16)]

/-- A byte as it stands in escaped text. -/
def encodeByte (extra : List Char) (byte : UInt8) : Text :=
  let c := Char.ofNat byte.toNat
  if byte < 0x80 ∧ isPlain extra c then [c] else escapeByte byte

/-- The text with every byte of its UTF-8 form escaped that is not plain. -/
def encode (extra : List Char) (text : Text) : Text :=
  (Utf8.encode text).flatMap (encodeByte extra)

/-! ### Unescaping -/

/-- Why a text cannot be unescaped. -/
inductive Fault
  /-- An escape without two hexadecimal digits, with its first characters. -/
  | escape (shown : Text)
  /-- The bytes are no UTF-8. -/
  | utf8 (fault : Utf8.Fault)
  deriving DecidableEq

namespace Fault

/-- The message for the user. -/
def message : Fault → String
  | escape shown => String.ofList shown
  | utf8 fault => "invalid UTF-8: " ++ fault.message

end Fault

/-- The byte that two hexadecimal digits write. -/
def hexByte? (high low : Char) : Option UInt8 :=
  match Hex.value? high, Hex.value? low with
  | some high, some low => some (UInt8.ofNat (16 * high + low))
  | _, _ => none

/-- The bytes of an escaped text. Escapes of the `kept` characters stay as they are. -/
def bytes (kept : List Char) : Text → Except Fault Bytes
  | [] => .ok []
  | '%' :: high :: low :: rest =>
    match hexByte? high low with
    | none => .error (.escape ['%', high, low])
    | some byte =>
      let own := if Char.ofNat byte.toNat ∈ kept then Utf8.encode ['%', high, low] else [byte]
      (bytes kept rest).map (own ++ ·)
  | c :: rest =>
    if c = '%' then .error (.escape ((c :: rest).take 3))
    else (bytes kept rest).map (Utf8.encodeChar c ++ ·)

/-- The text with its escapes replaced, those of the `kept` characters apart. -/
def decode (kept : List Char) (text : Text) : Except Fault Text :=
  match bytes kept text with
  | .error fault => .error fault
  | .ok bytes =>
    match Utf8.decode bytes with
    | .error fault => .error (.utf8 fault)
    | .ok text => .ok text

end Rowwise.Percent
