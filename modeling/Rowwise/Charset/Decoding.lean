import Rowwise.Charset.SingleByteTable
import Rowwise.Charset.Utf16
import Rowwise.Text.Case
import Rowwise.Text.Packed

/-!
# Decoding by label

Turns bytes into text by the name of an encoding. UTF-8 and the Latin-1 names are forgiving: what
is malformed becomes U+FFFD. Every other known label is strict, and an unknown one is read as
UTF-8. A byte-order mark at the start decides over a label other than UTF-8, and never reaches the
text.

The index tables of the multi-byte encodings are missing here: their decoders are a parameter.
-/

namespace Rowwise.Charset

/-- Decoders of the multi-byte encodings. Each gives the characters of some bytes; nothing stands
for a fault. The standard decoders look tens of thousands of characters up in index tables, and
neither the tables nor the decoders are in this library. -/
structure Decoders where
  items : MultiByte → Bytes → List (Option Char)

namespace Decoders

/-- Whether a byte is an ASCII character in a multi-byte encoding, wherever no character of several
bytes has begun. ISO-2022-JP shifts to other character sets by three of the control characters. -/
def isAscii (charset : MultiByte) (byte : UInt8) : Bool :=
  byte < 0x80 && !(charset = .iso2022Jp && byte ∈ [0x0E, 0x0F, 0x1B])

/-- Decoders without index tables, which do for ASCII text: all else is a fault, byte by byte. -/
def asciiOnly : Decoders where
  items charset bytes := bytes.map fun byte =>
    if isAscii charset byte then some (Char.ofNat byte.toNat) else none

end Decoders

variable (decoders : Decoders)

/-- The characters of a single-byte encoding by their bytes; some bytes have none. -/
def singleByteChars (charset : SingleByte) (bytes : Bytes) : List (Option Char) :=
  let upper := (Packed.codes ((upperHalves.lookup charset).getD "")).toArray
  bytes.map fun (byte : UInt8) =>
    if byte < 0x80 then some (Char.ofNat byte.toNat)
    else
      match upper[byte.toNat - 0x80]? with
      | some 0xFFFD | none => none
      | some code => some (Char.ofNat code)

/-- The characters of some bytes in an encoding; nothing stands for a fault. -/
def items (encoding : Encoding) (bytes : Bytes) : List (Option Char) :=
  match encoding with
  | .utf8 =>
    (Utf8.items bytes).map fun
      | .char c => some c
      | _ => none
  | .utf16LE => Utf16.decode .little bytes
  | .utf16BE => Utf16.decode .big bytes
  | .singleByte charset => singleByteChars charset bytes
  | .userDefined =>
    bytes.map fun (byte : UInt8) =>
      some (Char.ofNat (if byte < 0x80 then byte.toNat else 0xF780 + (byte.toNat - 0x80)))
  | .multiByte charset => decoders.items charset bytes
  | .replacement => if bytes.isEmpty then [] else [none]

/-- The encoding that a byte-order mark at the start tells, and the bytes after it. -/
def byteOrderMark? (bytes : Bytes) : Option (Encoding × Bytes) :=
  match bytes with
  | 0xEF :: 0xBB :: 0xBF :: rest => some (.utf8, rest)
  | 0xFF :: 0xFE :: rest => some (.utf16LE, rest)
  | 0xFE :: 0xFF :: rest => some (.utf16BE, rest)
  | _ => none

/-- The characters of some bytes in an encoding, unless a byte-order mark tells another. -/
def sniffedItems (encoding : Encoding) (bytes : Bytes) : List (Option Char) :=
  let (encoding, bytes) := (byteOrderMark? bytes).getD (encoding, bytes)
  items decoders encoding bytes

/-- The text of some characters with U+FFFD for faults. -/
def lossy (items : List (Option Char)) : Text :=
  items.map (·.getD Utf8.replacement)

/-- The text of some characters without faults. -/
def strict? (items : List (Option Char)) : Option Text :=
  items.mapM id

/-- Bytes that are malformed in the encoding of a label. -/
structure DecodeError where
  label : Text
  deriving DecidableEq

namespace DecodeError

/-- The message for the user. -/
def message (e : DecodeError) : String :=
  "Failed to decode input as " ++ String.ofList e.label ++ ": input contains invalid sequences"

end DecodeError

/-- How the content of a label is decoded. -/
inductive Mode
  | lossyUtf8
  | lossy (charset : SingleByte)
  | strict (encoding : Encoding)
  deriving DecidableEq

/-- How the content of a label in lower case is decoded. The Latin-1 names mean ISO-8859-15. -/
def mode (label : Text) : Mode :=
  let name := String.ofList label
  if name ∈ ["utf-8", "utf8", "ascii"] then .lossyUtf8
  else if name ∈ ["iso-8859-1", "latin-1", "latin1"] then .lossy .iso8859_15
  else if name ∈ ["windows-1252", "cp1252"] then .lossy .windows1252
  else
    match ofLabel? label with
    | some encoding => .strict encoding
    | none => .lossyUtf8

/-- The text without a byte-order mark at its start. -/
def dropMark (text : Text) : Text :=
  match text with
  | c :: rest => if c.toNat = 0xFEFF then rest else text
  | [] => []

/-- The text of some bytes in the encoding of a label. -/
def decode (bytes : Bytes) (label : Text) : Except DecodeError Text :=
  let label := Text.lower label
  match mode label with
  | .lossyUtf8 => .ok (dropMark (Utf8.decodeLossy bytes))
  | .lossy charset => .ok (dropMark (lossy (sniffedItems decoders (.singleByte charset) bytes)))
  | .strict encoding =>
    match strict? (sniffedItems decoders encoding bytes) with
    | some text => .ok (dropMark text)
    | none => .error ⟨label⟩

end Rowwise.Charset
