import Rowwise.Charset.Reading
import Rowwise.Job.Request
import Rowwise.Server.Multipart

/-!
# Uploads

A form with a file, a pattern and how to read the file. The order of the fields does not count;
of two fields of one name the later one does.
-/

namespace Rowwise.Server

variable (decoders : Charset.Decoders)

/-- Whether a text in a form means yes. -/
def isYes (text : Text) : Bool :=
  String.ofList (Text.lower (Text.trim text)) ∈ ["true", "1", "yes", "on"]

/-- What a form holds. -/
structure Form where
  file : Option Bytes
  fileName : Option Text
  pattern : Text
  separator : Option Separator
  hasHeader : Bool
  deriving DecidableEq

namespace Form

/-- A form without fields. -/
def empty : Form := ⟨none, none, [], none, false⟩

/-- Takes up a separator. Blank text and `auto` leave it as it is. -/
def takeSeparator (form : Form) (text : Text) : Except UnknownSeparator Form :=
  let name := Text.trim text
  if name.isEmpty || name = "auto".toList then .ok form
  else (Separator.parse name).map fun kind => { form with separator := some kind }

/-- Takes up a field; fields of other names do not count. -/
def take (form : Form) (field : Field) : Except UnknownSeparator Form :=
  if field.name = "file".toList then
    .ok { form with file := some field.content, fileName := field.fileName }
  else if field.name = "pattern".toList then .ok { form with pattern := field.text decoders }
  else if field.name = "separator".toList || field.name = "separatorKind".toList then
    form.takeSeparator (field.text decoders)
  else if field.name = "hasHeaderRow".toList then
    .ok { form with hasHeader := isYes (field.text decoders) }
  else .ok form

/-- The form with some fields. -/
def ofFields (fields : List Field) : Except UnknownSeparator Form :=
  fields.foldlM (take decoders) empty

end Form

/-- A file as a job, and the encoding in which it was read. -/
structure Upload where
  encoding : String
  request : Job.Request
  deriving DecidableEq

namespace Upload

/-- Reads a file. Without a separator it is guessed from the first line. -/
def ofBytes (bytes : Bytes) (pattern : Text) (separator : Option Separator) (hasHeader : Bool) :
    Except Charset.ReadError Upload := do
  let decoded ← Charset.read decoders bytes
  let kind := separator.getD (Separator.detect decoded.text)
  .ok ⟨decoded.encoding, ⟨decoded.text, pattern, kind, hasHeader⟩⟩

end Upload

end Rowwise.Server
