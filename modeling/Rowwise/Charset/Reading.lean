import Rowwise.Charset.Decoding
import Rowwise.Charset.Detection

/-!
# Reading bytes of unknown encoding

Bytes are read in the encoding that is detected in them.
-/

namespace Rowwise.Charset

/-- Text, and the name of the encoding it was read in. -/
structure Decoded where
  encoding : String
  text : Text
  deriving DecidableEq

/-- Why bytes cannot be read. -/
inductive ReadError
  /-- No encoding can be detected. -/
  | detection (error : DetectError)
  /-- The bytes are malformed in the encoding detected. -/
  | decoding (error : DecodeError)
  deriving DecidableEq

namespace ReadError

/-- The message for the user. -/
def message : ReadError → String
  | detection error => error.message
  | decoding error => error.message

end ReadError

/-- The encoding of some bytes. -/
def encodingOf (bytes : Bytes) : Except ReadError String :=
  (detect bytes).mapError .detection

variable (decoders : Decoders)

/-- The text of some bytes in an encoding that was detected. -/
def decodeAs (encoding : String) (bytes : Bytes) : Except ReadError Text :=
  (decode decoders bytes encoding.toList).mapError .decoding

/-- The text of some bytes. -/
def read (bytes : Bytes) : Except ReadError Decoded := do
  let encoding ← encodingOf bytes
  .ok ⟨encoding, ← decodeAs decoders encoding bytes⟩

end Rowwise.Charset
