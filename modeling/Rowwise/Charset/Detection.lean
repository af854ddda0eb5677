import Rowwise.Number.Decimal
import Rowwise.Text.Utf8

/-!
# Detecting an encoding

Guesses the encoding of bytes: by a byte-order mark, else by how well they read as UTF-8 and as
Latin-1. Confidence is an exact fraction.
-/

namespace Rowwise.Charset

/-- The encodings that a byte-order mark tells, the longer marks before those they begin with. -/
def marks : List (Bytes × String) :=
  [([0xEF, 0xBB, 0xBF], "utf-8"),
   ([0xFF, 0xFE, 0x00, 0x00], "utf-32le"),
   ([0xFF, 0xFE], "utf-16le"),
   ([0x00, 0x00, 0xFE, 0xFF], "utf-32be"),
   ([0x00, 0x00, 0xFF, 0xFE], "x-iso-100646-ucs-4-2143"),
   ([0xFE, 0xFF, 0x00, 0x00], "x-iso-10646-ucs-4-3412"),
   ([0xFE, 0xFF], "utf-16be")]

/-- A confidence from 0 to 1, as a fraction. -/
structure Confidence where
  num : Nat
  den : Nat
  deriving DecidableEq

namespace Confidence

/-- Whether one confidence is less than or equal to another. -/
def le (a b : Confidence) : Bool :=
  a.num * b.den ≤ b.num * a.den

/-- The greater of two confidences. -/
def max (a b : Confidence) : Confidence :=
  if a.le b then b else a

end Confidence

/-! ### UTF-8 -/

/-- The characters of several bytes up to the first fault; the flag says that there is none. -/
def countWide : List Utf8.Item → Nat × Bool
  | [] => (0, true)
  | .char c :: rest =>
    let (n, clean) := countWide rest
    (if c.toNat < 0x80 then n else n + 1, clean)
  | .invalid _ :: _ => (0, false)
  | .incomplete _ :: _ => (0, true)

/-- How sure UTF-8 is after so many characters of several bytes: every one halves the doubt, and
from six on it is 0.99. -/
def utf8Confidence (wide : Nat) : Confidence :=
  if wide ≥ 6 then ⟨99, 100⟩
  else ⟨100 * Number.powerOfTwo wide - 99, 100 * Number.powerOfTwo wide⟩

/-! ### Latin-1 -/

/-- The classes of bytes in Latin-1 text. -/
inductive ByteClass
  | undefined
  | other
  | asciiCapital
  | asciiSmall
  | accentedCapitalVowel
  | accentedCapital
  | accentedSmallVowel
  | accentedSmall
  deriving DecidableEq

namespace ByteClass

/-- The class of a byte. -/
def of (byte : UInt8) : ByteClass :=
  let b := byte.toNat
  let within (low high : Nat) : Bool := low ≤ b && b ≤ high
  if b ∈ [0x81, 0x8D, 0x8F, 0x90, 0x9D] then undefined
  else if within 0x41 0x5A then asciiCapital
  else if within 0x61 0x7A then asciiSmall
  else if within 0xC0 0xC5 || within 0xC8 0xCF || within 0xD2 0xD6 || within 0xD8 0xDC then
    accentedCapitalVowel
  else if b ∈ [0x8A, 0x8C, 0x8E, 0x9F, 0xC6, 0xC7, 0xD0, 0xD1] || within 0xDD 0xDF then
    accentedCapital
  else if within 0xE0 0xE5 || within 0xE8 0xEF || within 0xF2 0xF6 || within 0xF8 0xFC then
    accentedSmallVowel
  else if b ∈ [0x83, 0x9A, 0x9C, 0x9E, 0xE6, 0xE7, 0xF0, 0xF1] || within 0xFD 0xFF then
    accentedSmall
  else other

/-- The place of a class in a row of the model. -/
def index : ByteClass → Nat
  | undefined => 0
  | other => 1
  | asciiCapital => 2
  | asciiSmall => 3
  | accentedCapitalVowel => 4
  | accentedCapital => 5
  | accentedSmallVowel => 6
  | accentedSmall => 7

/-- How common each class is after a class, from 0, which does not occur, to 3. -/
def followers : ByteClass → List Nat
  | undefined => [0, 0, 0, 0, 0, 0, 0, 0]
  | other | asciiCapital | accentedCapital => [0, 3, 3, 3, 3, 3, 3, 3]
  | asciiSmall => [0, 3, 3, 3, 1, 1, 3, 3]
  | accentedCapitalVowel => [0, 3, 3, 3, 1, 2, 1, 2]
  | accentedSmallVowel => [0, 3, 1, 3, 1, 1, 1, 3]
  | accentedSmall => [0, 3, 1, 3, 1, 1, 3, 3]

/-- How common a pair of neighbours is. -/
def grade (before after : ByteClass) : Nat :=
  ((followers before)[after.index]?).getD 0

end ByteClass

/-- Whether a byte is an ASCII letter or no ASCII at all. -/
def isWordByte (byte : UInt8) : Bool :=
  byte ≥ 0x80 || (Char.ofNat byte.toNat).isAlpha

/-- The runs of word bytes outside of tags, with a space after each but the last. A run belongs to
a tag if the byte that ends it opens one; `run`, newest byte first, has been read. -/
def latin1Runs (inTag : Bool) (run : Bytes) : Bytes → Bytes
  | [] => if inTag then [] else run.reverse
  | byte :: rest =>
    let inTag := if byte = 0x3E then false else if byte = 0x3C then true else inTag
    if isWordByte byte then latin1Runs inTag (byte :: run) rest
    else if run.isEmpty || inTag then latin1Runs inTag [] rest
    else run.reverse ++ 0x20 :: latin1Runs inTag [] rest

/-- The grades of the neighbours in some bytes, after a class. -/
def grades (before : ByteClass) : Bytes → List Nat
  | [] => []
  | byte :: rest =>
    let after := ByteClass.of byte
    ByteClass.grade before after :: grades after rest

/-- How sure Latin-1 is, by the grades of neighbours: a pair that does not occur leaves one part in
a hundred, and a rare pair counts against twenty common ones. -/
def latin1Confidence (bytes : Bytes) : Confidence :=
  let found := grades .other (latin1Runs false [] bytes)
  if 0 ∈ found then ⟨1, 100⟩
  else if found.isEmpty then ⟨0, 1⟩
  else ⟨73 * (found.count 3 - 20 * found.count 1), 100 * found.length⟩

/-! ### The guess -/

/-- Detection fails: the bytes are ASCII, but hold an escape character. -/
inductive DetectError
  | escapeInAscii
  deriving DecidableEq

namespace DetectError

/-- The message for the user. -/
def message : DetectError → String
  | escapeInAscii => "encoding detection does not support escape sequences"

end DetectError

/-- Below this confidence a guess is not followed. -/
def threshold : Confidence := ⟨1, 5⟩

/-- Above this confidence UTF-8 is not compared with anything. -/
def certainty : Confidence := ⟨95, 100⟩

/-- The name of the encoding that some bytes seem to have. -/
def detect (bytes : Bytes) : Except DetectError String :=
  match marks.find? fun mark => mark.1.isPrefixOf bytes with
  | some mark => .ok mark.2
  | none =>
    if bytes.all fun byte => byte < 0x80 || byte == 0xA0 then
      if bytes.contains 0x1B then .error .escapeInAscii else .ok "utf-8"
    else
      let (wide, clean) := countWide (Utf8.items bytes)
      let utf8 := utf8Confidence wide
      if clean && !utf8.le certainty then .ok "utf-8"
      else
        let latin1 := latin1Confidence bytes
        if (utf8.max latin1).le threshold || latin1.le utf8 then .ok "utf-8" else .ok "iso-8859-1"

end Rowwise.Charset
