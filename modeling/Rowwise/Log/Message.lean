import Rowwise.Json.Reader

/-!
# Log messages

What a job tells about its progress: a level, a text and how far it is indented. An entry is a
message with the time at which it was made.
-/

namespace Rowwise.Log

/-- How a message is meant. -/
inductive Level
  | info
  | success
  | warning
  | error
  deriving DecidableEq

namespace Level

/-- The name by which a level is written. -/
def name : Level → String
  | info => "info"
  | success => "success"
  | warning => "warning"
  | error => "error"

/-- The level of a name. -/
def ofName? (name : Text) : Option Level :=
  [info, success, warning, error].find? (·.name.toList = name)

/-- The sign that stands before a message on the terminal. -/
def sign : Level → String
  | info => "   "
  | success => "   ✓"
  | warning => "   ⚠️"
  | error => "   ❌"

end Level

/-- A message. -/
structure Message where
  level : Level
  text : Text
  indent : UInt8
  deriving DecidableEq

namespace Message

/-- A message that is not indented. -/
def ofString (level : Level) (text : String) : Message :=
  ⟨level, text.toList, 0⟩

/-- The message one step further to the right. -/
def indented (message : Message) : Message :=
  { message with indent := message.indent + 1 }

/-- The message as a line on the terminal: three spaces a step, then the sign of its level. -/
def line (message : Message) : Text :=
  List.replicate (3 * message.indent.toNat) ' ' ++ message.level.sign.toList ++ ' ' :: message.text

/-- The fields of a message. -/
def fields (message : Message) : List (String × Json) :=
  [("level", .ofString message.level.name), ("message", .string message.text),
    ("indent", .integer message.indent.toNat)]

end Message

/-- A message and the time at which it was made. -/
structure Entry where
  message : Message
  timestamp : Text
  deriving DecidableEq

namespace Entry

/-- An entry as a value. -/
def toJson (entry : Entry) : Json :=
  .record (entry.message.fields ++ [("timestamp", .string entry.timestamp)])

/-- The fields of an entry that have been read. -/
structure Draft where
  level : Option Level
  text : Option Text
  indent : Option UInt8
  timestamp : Option Text

namespace Draft

/-- No field read yet. -/
def empty : Draft := ⟨none, none, none, none⟩

/-- The entry; without an indentation it is not indented. -/
def entry? (draft : Draft) : Option Entry := do
  some ⟨⟨← draft.level, ← draft.text, draft.indent.getD 0⟩, ← draft.timestamp⟩

end Draft

/-- How the fields of an entry are read. -/
def recordReader : Json.RecordReader Draft where
  names := ["level".toList, "message".toList, "indent".toList, "timestamp".toList]
  has name draft :=
    if name = "level".toList then draft.level.isSome
    else if name = "message".toList then draft.text.isSome
    else if name = "indent".toList then draft.indent.isSome
    else draft.timestamp.isSome
  field depth name draft text :=
    if name = "level".toList then
      (Json.expectName depth Level.ofName? text).map fun (level, rest) =>
        ({ draft with level := some level }, rest)
    else if name = "message".toList then
      (Json.expectString text).map fun (value, rest) => ({ draft with text := some value }, rest)
    else if name = "indent".toList then
      (Json.expectNat 256 text).map fun (indent, rest) =>
        ({ draft with indent := some (UInt8.ofNat indent) }, rest)
    else
      (Json.expectString text).map fun (value, rest) =>
        ({ draft with timestamp := some value }, rest)

/-- The entry that a document holds. -/
def ofDocument (text : Text) : Except Json.ReadError Entry :=
  Json.document (recordReader.read .empty Draft.entry?) text

end Entry

end Rowwise.Log
