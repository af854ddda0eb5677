import Rowwise.Charset.Decoding
import Rowwise.Server.MediaType

/-!
# Forms in parts

The body of a form that is sent in parts. A boundary stands before each part and after the last
one; a part has headers, an empty line and content. Reading goes as far as it can: the fields that
are whole come with the fault that ends them.
-/

namespace Rowwise.Server

/-- A field of a form, with the encoding of its text. -/
structure Field where
  name : Text
  fileName : Option Text
  content : Bytes
  charset : Charset.Encoding
  deriving DecidableEq

namespace Field

/-- The content as text, with U+FFFD for what is malformed. -/
def text (decoders : Charset.Decoders) (field : Field) : Text :=
  Charset.lossy (Charset.sniffedItems decoders field.charset field.content)

end Field

namespace Multipart

/-- The bytes before and after the first place where `mark` stands. -/
def cut? (mark : Bytes) : Bytes → Option (Bytes × Bytes)
  | [] => if mark.isEmpty then some ([], []) else none
  | byte :: rest =>
    if mark.isPrefixOf (byte :: rest) then some ([], (byte :: rest).drop mark.length)
    else (cut? mark rest).map fun (before, after) => (byte :: before, after)

theorem cut?_length {mark bytes before after : Bytes} (h : cut? mark bytes = some (before, after)) :
    before.length + mark.length + after.length = bytes.length := by
  induction bytes generalizing before after with
  | nil =>
    simp only [cut?] at h
    split at h <;> simp_all
  | cons byte rest ih =>
    simp only [cut?] at h
    split at h
    · next hp =>
      have hp := (List.isPrefixOf_iff_prefix.1 hp).length_le
      simp only [Option.some.injEq, Prod.mk.injEq] at h
      obtain ⟨rfl, rfl⟩ := h
      simp only [List.length_nil, List.length_drop]
      omega
    · obtain ⟨⟨b, a⟩, hr, he⟩ := Option.map_eq_some_iff.1 h
      simp only [Prod.mk.injEq] at he
      obtain ⟨rfl, rfl⟩ := he
      have := ih hr
      simp only [List.length_cons]
      omega

/-! ### Headers -/

/-- The bytes of an ASCII text. -/
def ascii (s : String) : Bytes :=
  s.toList.map fun c => UInt8.ofNat c.toNat

/-- White space in headers. -/
def isBlank (byte : UInt8) : Bool :=
  byte == 0x20 || byte == 0x09

/-- The bytes without blanks at either end. -/
def trim (bytes : Bytes) : Bytes :=
  ((bytes.dropWhile isBlank).reverse.dropWhile isBlank).reverse

/-- Whether a byte can stand in the value of a header. -/
def isValueByte (byte : UInt8) : Bool :=
  byte == 0x09 || (0x20 ≤ byte && byte ≠ 0x7F)

/-- The name and the value in a header line. -/
def headerOfLine? (line : Bytes) : Option (Text × Bytes) :=
  let isNameByte (byte : UInt8) : Bool := MediaType.isTokenChar (Char.ofNat byte.toNat)
  let name := line.takeWhile isNameByte
  match name, line.dropWhile isNameByte with
  | _ :: _, 0x3A :: value =>
    if value.all isValueByte then
      some (name.map fun byte => (Char.ofNat byte.toNat).toLower, trim value)
    else none
  | _, _ => none

/-- A line without the carriage return at its end. -/
def dropReturn (line : Bytes) : Bytes :=
  if line.getLast? = some 0x0D then line.dropLast else line

/-- How many headers a part may have. -/
def headerLimit : Nat := 32

/-- The headers up to the first empty line; no more than `limit`. -/
def headers? : (limit : Nat) → Bytes → Option (List (Text × Bytes))
  | limit, bytes =>
    match cut? [0x0A] bytes with
    | none => none
    | some (line, rest) =>
      if (dropReturn line).isEmpty then some []
      else
        match limit with
        | 0 => none
        | limit + 1 => do
          let header ← headerOfLine? (dropReturn line)
          some (header :: (← headers? limit rest))

/-- The value of the last header of a name. -/
def header? (headers : List (Text × Bytes)) (name : String) : Option Bytes :=
  headers.reverse.lookup name.toList

/-- The characters up to a quote that has no backslash before it; a quote that has one loses it. -/
def unquote : Bytes → Option Bytes
  | [] => none
  | 0x5C :: 0x22 :: rest => (unquote rest).map (0x22 :: ·)
  | byte :: rest => if byte = 0x22 then some [] else (unquote rest).map (byte :: ·)

/-- White space around the parts of a header. -/
def isSpace (byte : UInt8) : Bool :=
  Charset.isAsciiSpace (Char.ofNat byte.toNat)

/-- The value of an attribute, from the bytes after its name: in quotes, or up to a semicolon or a
space. -/
def attributeValue? (bytes : Bytes) : Option Bytes :=
  match bytes.dropWhile isSpace with
  | 0x3D :: rest =>
    match rest.dropWhile isSpace with
    | 0x22 :: value => unquote value
    | value => some (value.takeWhile fun byte => byte ≠ 0x3B && byte ≠ 0x20)
  | _ => none

/-- The value of an attribute of a header. White space or a semicolon stands before its name,
except at the start; `free` tells whether it does here. The next `skip` bytes are passed over. -/
def attribute? (name : Bytes) : (free : Bool) → (skip : Nat) → Bytes → Option Bytes
  | _, _, [] => none
  | free, skip + 1, _ :: rest => attribute? name free skip rest
  | free, 0, byte :: rest =>
    if !name.isPrefixOf (byte :: rest) then attribute? name (byte == 0x3B || isSpace byte) 0 rest
    else if free then attributeValue? ((byte :: rest).drop name.length)
    else attribute? name true (name.length - 1) rest

/-- The text of a header that holds visible ASCII only. -/
def visibleText? (value : Bytes) : Option Text :=
  if value.all fun byte => isValueByte byte && byte < 0x80 then
    some (value.map fun byte => Char.ofNat byte.toNat)
  else none

/-- The encoding that the content type of a part names; UTF-8 if it names none that is known. -/
def charsetOf (headers : List (Text × Bytes)) : Charset.Encoding :=
  let named := do
    let media ← MediaType.ofText? (← visibleText? (← header? headers "content-type"))
    Charset.ofLabel? (← media.parameters.lookup "charset".toList)
  named.getD .utf8

/-- The field with these headers and this content. -/
def field (headers : List (Text × Bytes)) (content : Bytes) : Field :=
  let named (name : String) : Option Text := do
    let value ← attribute? (ascii name) true 0 (← header? headers "content-disposition")
    (Utf8.decode value).toOption
  ⟨(named "name").getD [], named "filename", content, charsetOf headers⟩

/-! ### Parts -/

/-- Why a form ends before its end. -/
inductive Fault
  /-- There is no further part, and no end of the form either. -/
  | noPart
  /-- The content of a part goes on to the end. -/
  | openContent
  deriving DecidableEq

namespace Fault

/-- The message for the user. -/
def message (fault : Fault) : String :=
  let reason := "Error parsing \x60multipart/form-data\x60 request"
  match fault with
  | noPart => "Multipart error: " ++ reason
  | openContent => "Read error: " ++ reason

end Fault

end Multipart

/-- The fields of a form up to its end, or up to a fault. -/
structure Multipart where
  fields : List Field
  fault : Option Multipart.Fault

namespace Multipart

/-- No further field. -/
def finished : Multipart := ⟨[], none⟩

/-- No field before a fault. -/
def broken (fault : Fault) : Multipart := ⟨[], some fault⟩

/-- The headers of the part after a boundary, and its content with all that follows; nothing if
there is no part. -/
def partHead? (bytes : Bytes) : Option (List (Text × Bytes) × Bytes) :=
  match bytes.dropWhile isBlank with
  | 0x0D :: 0x0A :: rest => do
    let (head, rest) ← cut? [0x0D, 0x0A, 0x0D, 0x0A] rest
    some (← headers? headerLimit (head ++ [0x0D, 0x0A, 0x0D, 0x0A]), rest)
  | _ => none

theorem partHead?_length {bytes rest : Bytes} {headers : List (Text × Bytes)}
    (h : partHead? bytes = some (headers, rest)) : rest.length < bytes.length := by
  unfold partHead? at h
  split at h
  · next tail hd =>
    have hle := (List.dropWhile_sublist isBlank (l := bytes)).length_le
    rw [hd] at hle
    simp only [Option.bind_eq_bind, Option.bind_eq_some_iff, Option.some.injEq,
      Prod.mk.injEq] at h
    obtain ⟨⟨head, after⟩, hc, found, -, -, rfl⟩ := h
    have := cut?_length hc
    simp only [List.length_cons, List.length_nil] at this hle
    show after.length < bytes.length
    omega
  · simp at h

/-- The parts after a boundary; `mark` is the boundary as it stands after content. -/
def partsFrom (mark : Bytes) (bytes : Bytes) : Multipart :=
  if bytes.take 2 = [0x2D, 0x2D] then finished
  else
    match _hp : partHead? bytes with
    | none => broken .noPart
    | some (headers, rest) =>
      match _hc : cut? mark rest with
      | none => broken .openContent
      | some (content, rest) =>
        let more := partsFrom mark rest
        ⟨field headers content :: more.fields, more.fault⟩
termination_by bytes.length
decreasing_by
  have := partHead?_length _hp
  have := cut?_length _hc
  omega

/-- The form in a body, whose parts are divided by a boundary. -/
def ofBody (boundary : Text) (body : Bytes) : Multipart :=
  let mark := [0x2D, 0x2D] ++ Utf8.encode boundary
  match cut? mark body with
  | none => broken .noPart
  | some (_, rest) => partsFrom ([0x0D, 0x0A] ++ mark) rest

end Multipart

end Rowwise.Server
