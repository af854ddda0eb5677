import Rowwise.Proofs.Charset.Unmarked
import Rowwise.Proofs.Text.Units

/-!
# Charset — Marked

Text behind a byte-order mark, read as bytes of unknown encoding. The main statement is that the
mark tells the encoding, and that the text is read without the mark and otherwise unchanged
(`marked_survives`).

A mark is taken off once. UTF-8 is decoded with its mark as a character, which is dropped from the
text; in UTF-16 the mark is dropped from the bytes, and then the text has none at its start.
-/

namespace Rowwise.Charset

/-- The encodings that have a byte-order mark. -/
inductive Marked
  | utf8
  | utf16 (order : Utf16.ByteOrder)

namespace Marked

/-- The name by which an encoding is told. -/
def name : Marked → String
  | utf8 => "utf-8"
  | utf16 .little => "utf-16le"
  | utf16 .big => "utf-16be"

/-- The byte-order mark. -/
def mark : Marked → Bytes
  | utf8 => [0xEF, 0xBB, 0xBF]
  | utf16 .little => [0xFF, 0xFE]
  | utf16 .big => [0xFE, 0xFF]

/-- The bytes of a text without a mark. -/
def encode : Marked → Text → Bytes
  | utf8, text => Utf8.encode text
  | utf16 order, text => Utf16.encode order text

/-- The bytes of a text behind the mark. -/
def written (encoding : Marked) (text : Text) : Bytes :=
  encoding.mark ++ encoding.encode text

end Marked

open Marked

variable {text : Text}

/-! ## The encoding -/

/-- **The mark tells the encoding.** The longer marks that begin with one of UTF-16 go on with two
zeros, which the text does not begin with. -/
theorem detect_written (encoding : Marked) (hnull : text.head? ≠ some '\x00') :
    detect (encoding.written text) = .ok encoding.name := by
  cases encoding with
  | utf8 => rfl
  | utf16 order =>
    have hnone : [0, 0].isPrefixOf (Utf16.encode order text) = false := by
      rw [← Bool.not_eq_true, List.isPrefixOf_iff_prefix]
      exact Utf16.not_zeros_prefix_encode hnull order
    cases order with
    | little =>
      simp [detect, marks, List.find?, written, mark, Marked.encode, name,
        List.isPrefixOf_cons_cons, hnone]
    | big =>
      simp [detect, marks, List.find?, written, mark, Marked.encode, name,
        List.isPrefixOf_cons_cons, hnone]

/-! ## The text -/

theorem strict?_map_some (text : Text) : strict? (text.map some) = some text := by
  induction text with
  | nil => rfl
  | cons c text ih =>
    rw [strict?] at *
    rw [List.map_cons, List.mapM_cons, ih]
    rfl

/-- A mark of UTF-8 is decoded as a character, and dropped as one. -/
theorem decode_written_utf8 (decoders : Decoders) (text : Text) :
    decode decoders (utf8.written text) utf8.name.toList = .ok text := by
  have hmode : mode (Text.lower utf8.name.toList) = .lossyUtf8 := by
    decide +kernel
  have hbytes : utf8.written text = Utf8.encode ('\uFEFF' :: text) := rfl
  rw [decode, hmode, hbytes]
  dsimp only
  rw [Utf8.decodeLossy_encode]
  rfl

/-- A mark of UTF-16 is dropped before anything is decoded. -/
theorem decode_written_utf16 (decoders : Decoders) (order : Utf16.ByteOrder)
    (hmark : text.head? ≠ some '\uFEFF') :
    decode decoders ((utf16 order).written text) (utf16 order).name.toList = .ok text := by
  have hitems : ∀ encoding, sniffedItems decoders encoding ((utf16 order).written text)
      = Utf16.decode order (Utf16.encode order text) := fun encoding => by
    cases order <;> rfl
  have hmode : ∃ encoding, mode (Text.lower (utf16 order).name.toList) = .strict encoding := by
    cases order with
    | little => exact ⟨.utf16LE, by decide +kernel⟩
    | big => exact ⟨.utf16BE, by decide +kernel⟩
  obtain ⟨encoding, hmode⟩ := hmode
  rw [decode, hmode]
  dsimp only
  rw [hitems, Utf16.decode_encode, strict?_map_some]
  dsimp only
  rw [dropMark_of_unmarked hmark]

/-- **What stands behind the mark is read.** Of a text that begins neither with a mark of its own nor
with the character of code zero, take the bytes in UTF-8 or in UTF-16 of either byte order, behind
the mark of that encoding. The encoding is told by the mark; in that encoding the bytes decode to
the text; read as a table they give the table of the text, whatever the separator and with headers
or without; and uploaded they give a request for the text. The decoders of other encodings play no
part. -/
theorem marked_survives (decoders : Decoders) (encoding : Marked)
    (hmark : text.head? ≠ some '\uFEFF') (hnull : text.head? ≠ some '\x00') :
    detect (encoding.written text) = .ok encoding.name ∧
      decode decoders (encoding.written text) encoding.name.toList = .ok text ∧
      (∀ kind header, Table.parseBytes decoders (encoding.written text) kind header
        = .ok (Table.parse text kind header)) ∧
      ∀ pattern separator header,
        Server.Upload.ofBytes decoders (encoding.written text) pattern separator header
          = .ok ⟨encoding.name, text, pattern, separator.getD (Separator.detect text), header⟩ := by
  have hdetect := detect_written encoding hnull
  have hdecode : decode decoders (encoding.written text) encoding.name.toList = .ok text := by
    cases encoding with
    | utf8 => exact decode_written_utf8 decoders text
    | utf16 order => exact decode_written_utf16 decoders order hmark
  have hread : read decoders (encoding.written text) = .ok ⟨encoding.name, text⟩ := by
    rw [read, encodingOf, hdetect]
    dsimp only [Except.mapError, bind, Except.bind]
    rw [decodeAs, hdecode]
    rfl
  refine ⟨hdetect, hdecode, ?_, ?_⟩
  · intro kind header
    rw [Table.parseBytes, hread]
    rfl
  · intro pattern separator header
    rw [Server.Upload.ofBytes, hread]
    rfl

/-- A character beyond U+FFFF, a comma and a mark that is not at the start, in UTF-16. -/
theorem marked_survives_pair :
    ['😀', ',', '\uFEFF'].head? ≠ some '\uFEFF' ∧ ['😀', ',', '\uFEFF'].head? ≠ some '\x00' ∧
      detect [0xFE, 0xFF, 0xD8, 0x3D, 0xDE, 0x00, 0x00, 0x2C, 0xFE, 0xFF] = .ok "utf-16be" ∧
      Table.parseBytes .asciiOnly
          [0xFE, 0xFF, 0xD8, 0x3D, 0xDE, 0x00, 0x00, 0x2C, 0xFE, 0xFF] .comma false
        = .ok ⟨[], [[['😀'], ['\uFEFF']]]⟩ := by
  have hmark : ['😀', ',', '\uFEFF'].head? ≠ some '\uFEFF' := by decide
  have hnull : ['😀', ',', '\uFEFF'].head? ≠ some '\x00' := by decide
  obtain ⟨hdetect, -, hparse, -⟩ := marked_survives .asciiOnly (.utf16 .big) hmark hnull
  exact ⟨hmark, hnull, hdetect, hparse .comma false⟩

end Rowwise.Charset
