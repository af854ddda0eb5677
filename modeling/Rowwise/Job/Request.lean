import Rowwise.Json.Reader
import Rowwise.Table.Separator

/-!
# Job requests

What one job needs: the delimited text, the pattern, and how to read and write. Both the request
and the options are read from JSON; what they leave out takes its default.
-/

namespace Rowwise.Job

/-- The text to render and the pattern to render it by. -/
structure Request where
  rawText : Text
  pattern : Text
  separator : Separator
  hasHeader : Bool
  deriving DecidableEq

namespace Request

/-- A job runs only if there is some text and some pattern. -/
def isComplete (request : Request) : Bool :=
  !request.rawText.isEmpty && !request.pattern.isEmpty

/-- A request as a value. -/
def toJson (request : Request) : Json :=
  .record [("rawText", .string request.rawText), ("pattern", .string request.pattern),
    ("separatorKind", .ofString request.separator.name),
    ("hasHeaderRow", .bool request.hasHeader)]

/-- The fields of a request that have been read. -/
structure Draft where
  rawText : Option Text
  pattern : Option Text
  separator : Option Separator
  hasHeader : Option Bool

namespace Draft

/-- No field read yet. -/
def empty : Draft := ⟨none, none, none, none⟩

/-- The request, with defaults for what was left out. -/
def request (draft : Draft) : Request :=
  ⟨draft.rawText.getD [], draft.pattern.getD [], draft.separator.getD .comma,
    draft.hasHeader.getD false⟩

end Draft

/-- How the fields of a request are read. -/
def recordReader : Json.RecordReader Draft where
  names := ["rawText".toList, "pattern".toList, "separatorKind".toList, "hasHeaderRow".toList]
  has name draft :=
    if name = "rawText".toList then draft.rawText.isSome
    else if name = "pattern".toList then draft.pattern.isSome
    else if name = "separatorKind".toList then draft.separator.isSome
    else draft.hasHeader.isSome
  field depth name draft text :=
    if name = "rawText".toList then
      (Json.expectString text).map fun (value, rest) =>
        ({ draft with rawText := some value }, rest)
    else if name = "pattern".toList then
      (Json.expectString text).map fun (value, rest) =>
        ({ draft with pattern := some value }, rest)
    else if name = "separatorKind".toList then
      (Json.expectName depth (fun name => Separator.ofName? (String.ofList name)) text).map
        fun (kind, rest) => ({ draft with separator := some kind }, rest)
    else
      (Json.expectBool text).map fun (value, rest) =>
        ({ draft with hasHeader := some value }, rest)

/-- The request that a document holds. -/
def ofDocument (text : Text) : Except Json.ReadError Request :=
  Json.document (recordReader.read .empty fun draft => some draft.request) text

end Request

/-- How a job runs. -/
structure Options where
  /-- What stands after every rendered row. -/
  lineSeparator : Text
  /-- Whether to look into the cache, if there is one. -/
  useCache : Bool
  deriving DecidableEq

namespace Options

/-- A line feed after every row; the cache is used. -/
def default : Options := ⟨['\n'], true⟩

/-- How the fields of options are read, each of which may have been read already. -/
def recordReader : Json.RecordReader (Option Text × Option Bool) where
  names := ["lineSeparator".toList, "useCache".toList]
  has name state :=
    if name = "lineSeparator".toList then state.1.isSome else state.2.isSome
  field _ name state text :=
    if name = "lineSeparator".toList then
      (Json.expectString text).map fun (value, rest) => ((some value, state.2), rest)
    else
      (Json.expectBool text).map fun (value, rest) => ((state.1, some value), rest)

/-- The options that a document holds. -/
def ofDocument (text : Text) : Except Json.ReadError Options :=
  let finish (state : Option Text × Option Bool) : Option Options :=
    some ⟨state.1.getD default.lineSeparator, state.2.getD default.useCache⟩
  Json.document (recordReader.read (none, none) finish) text

end Options

end Rowwise.Job
