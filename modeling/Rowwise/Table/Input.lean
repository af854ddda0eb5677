import Rowwise.Charset.Reading
import Rowwise.Files.Directory
import Rowwise.Table.Reader

/-!
# Tables in files

Bytes and files as tables.
-/

namespace Rowwise.Table

variable (decoders : Charset.Decoders)

/-- The table in some bytes. -/
def parseBytes (bytes : Bytes) (kind : Separator) (header : Bool) :
    Except Charset.ReadError Dataset := do
  .ok (parse (← Charset.read decoders bytes).text kind header)

/-- Why there is no table in a file. -/
inductive InputError
  /-- The file cannot be read. -/
  | unreadable (error : FileError)
  /-- Its bytes are no text. -/
  | noText (error : Charset.ReadError)
  deriving DecidableEq

namespace InputError

/-- The message for the user. -/
def message : InputError → String
  | unreadable error => "Failed to read input: " ++ error.message
  | noText error => error.message

end InputError

/-- The table in a file. -/
def parseFile (directory : Directory) (path : Text) (kind : Separator) (header : Bool) :
    Except InputError Dataset := do
  let bytes ← (directory.read path).mapError .unreadable
  (parseBytes decoders bytes kind header).mapError .noText

end Rowwise.Table
