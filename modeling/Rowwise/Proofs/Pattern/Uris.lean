import Rowwise.Proofs.Pattern.Calls
import Rowwise.Proofs.Text.Escapes

/-!
# Pattern — URIs

The functions that write and read percent escapes. What one of them encodes, the other decodes, and
a component decoder reads what the encoder of whole URIs wrote as well (`encoding_round_trip`). The
two decoders accept the same texts and differ in the escapes of reserved characters only
(`decoding_exact`).
-/

namespace Rowwise.Function

open Rowwise.Percent

section Gives

variable {text : Text} {result : CallResult}

theorem gives_urlEncode :
    Gives "urlEncode".toList [text] result ↔ result = .ok (encode reserved text) :=
  gives_iff rfl fun _ => rfl

theorem gives_urlEncodeComponent :
    Gives "urlEncodeComponent".toList [text] result ↔ result = .ok (encode [] text) :=
  gives_iff rfl fun _ => rfl

theorem gives_urlDecode :
    Gives "urlDecode".toList [text] result ↔ result = unescape reserved text :=
  gives_iff rfl fun _ => rfl

theorem gives_urlDecodeComponent :
    Gives "urlDecodeComponent".toList [text] result ↔ result = unescape [] text :=
  gives_iff rfl fun _ => rfl

end Gives

theorem ok_eq_unescape_iff {kept : List Char} {text decoded : Text} :
    .ok decoded = unescape kept text ↔ decode kept text = .ok decoded := by
  rw [unescape]
  cases decode kept text <;> simp [eq_comm]

/-- A text is unescaped, or an escape is malformed. -/
theorem unescape_cases (kept : List Char) (text : Text) :
    (∃ decoded, unescape kept text = .ok decoded) ∨
      ∃ fault, unescape kept text = .error (.malformedEscape fault) := by
  rw [unescape]
  cases decode kept text with
  | ok decoded => exact .inl ⟨decoded, rfl⟩
  | error fault => exact .inr ⟨fault, rfl⟩

theorem toNat_lt_of_reserved : ∀ c ∈ reserved, c.toNat < 0x80 := by
  simp [reserved]

/-- **Encoding round trips.** What a component is encoded to is decoded to the component, and what
a whole URI is encoded to is decoded to it by either decoder. An encoded component is ASCII letters
and digits, marks, and escapes with upper-case digits; an encoded URI may hold reserved characters
as well. -/
theorem encoding_round_trip (text : Text) : ∃ component whole,
    Gives "urlEncodeComponent".toList [text] (.ok component) ∧
      Gives "urlEncode".toList [text] (.ok whole) ∧
      Gives "urlDecodeComponent".toList [component] (.ok text) ∧
      Gives "urlDecode".toList [whole] (.ok text) ∧
      Gives "urlDecodeComponent".toList [whole] (.ok text) ∧
      Escaped [] component ∧ Escaped reserved whole := by
  refine ⟨encode [] text, encode reserved text, gives_urlEncodeComponent.mpr rfl,
    gives_urlEncode.mpr rfl, ?_, ?_, ?_, escaped_encode [] text, escaped_encode reserved text⟩
  · rw [gives_urlDecodeComponent, ok_eq_unescape_iff]
    exact decode_encode (by simp) (by simp) (by simp) text
  · rw [gives_urlDecode, ok_eq_unescape_iff]
    exact decode_encode toNat_lt_of_reserved (List.Subset.refl _) (by decide) text
  · rw [gives_urlDecodeComponent, ok_eq_unescape_iff]
    exact decode_encode (by simp) (by simp) (by decide) text

/-! ## What is accepted -/

/-- Each percent sign that is reached from left to right has two digits after it, which are passed
over, and the bytes with the escapes replaced are those of a text. -/
def WellEscaped (text : Text) : Prop :=
  ∃ pieces, Scanned text pieces ∧ Utf8.Valid (pieces.flatMap Piece.bytes)

section Decoding

variable {text decoded : Text} {pieces : List Piece}

theorem gives_urlDecodeComponent_iff (h : Scanned text pieces) :
    Gives "urlDecodeComponent".toList [text] (.ok decoded) ↔
      Utf8.encode decoded = pieces.flatMap Piece.bytes := by
  have hnone : ∀ piece ∈ pieces, ¬ piece.IsKept [] := fun piece _ => by
    cases piece <;> simp [Piece.IsKept]
  rw [gives_urlDecodeComponent, ok_eq_unescape_iff, decode_of_scanned h,
    Piece.flatMap_keptBytes hnone]

theorem gives_urlDecode_iff (h : Scanned text pieces) :
    Gives "urlDecode".toList [text] (.ok decoded) ↔
      Utf8.encode decoded = pieces.flatMap (Piece.keptBytes reserved) := by
  rw [gives_urlDecode, ok_eq_unescape_iff, decode_of_scanned h]

theorem exists_gives_urlDecodeComponent_iff :
    (∃ decoded, Gives "urlDecodeComponent".toList [text] (.ok decoded)) ↔ WellEscaped text := by
  constructor
  · rintro ⟨decoded, hdecoded⟩
    obtain ⟨pieces, hpieces⟩ :=
      exists_scanned_of_decode (ok_eq_unescape_iff.mp (gives_urlDecodeComponent.mp hdecoded))
    exact ⟨pieces, hpieces, decoded, (gives_urlDecodeComponent_iff hpieces).mp hdecoded⟩
  · rintro ⟨pieces, hpieces, decoded, hdecoded⟩
    exact ⟨decoded, (gives_urlDecodeComponent_iff hpieces).mpr hdecoded⟩

/-- A decoder that leaves some escapes as they are accepts no less and no more. -/
theorem exists_gives_urlDecode_iff :
    (∃ decoded, Gives "urlDecode".toList [text] (.ok decoded)) ↔ WellEscaped text := by
  constructor
  · rintro ⟨decoded, hdecoded⟩
    obtain ⟨pieces, hpieces⟩ :=
      exists_scanned_of_decode (ok_eq_unescape_iff.mp (gives_urlDecode.mp hdecoded))
    refine ⟨pieces, hpieces, (valid_keptBytes_iff toNat_lt_of_reserved).mp ?_⟩
    exact ⟨decoded, (gives_urlDecode_iff hpieces).mp hdecoded⟩
  · rintro ⟨pieces, hpieces, hvalid⟩
    obtain ⟨decoded, hdecoded⟩ := (valid_keptBytes_iff toNat_lt_of_reserved).mpr hvalid
    exact ⟨decoded, (gives_urlDecode_iff hpieces).mpr hdecoded⟩

end Decoding

/-- **Decoding accepts the well-formed texts**, and both decoders do. One gives the text of the
bytes with all escapes replaced; the other one gives the same text but for the escapes of reserved
characters, which stay as they are written. On every other text both say that an escape is
malformed. -/
theorem decoding_exact (text : Text) :
    ((∃ left, Gives "urlDecode".toList [text] (.ok left)) ↔
      ∃ replaced, Gives "urlDecodeComponent".toList [text] (.ok replaced)) ∧
    ((∃ replaced, Gives "urlDecodeComponent".toList [text] (.ok replaced)) ↔ WellEscaped text) ∧
    (∀ pieces replaced, Scanned text pieces →
      Utf8.encode replaced = pieces.flatMap Piece.bytes →
        Gives "urlDecodeComponent".toList [text] (.ok replaced) ∧
          ∃ left, Gives "urlDecode".toList [text] (.ok left) ∧
            Keeps reserved pieces replaced left) ∧
    (¬ WellEscaped text → ∀ name, name = "urlDecode".toList ∨ name = "urlDecodeComponent".toList →
      ∃ fault, Gives name [text] (.error (.malformedEscape fault))) := by
  refine ⟨?_, exists_gives_urlDecodeComponent_iff, ?_, ?_⟩
  · rw [exists_gives_urlDecode_iff, exists_gives_urlDecodeComponent_iff]
  · intro pieces replaced hpieces hreplaced
    have hnone : ∀ piece ∈ ([] : List Piece), ¬ piece.IsKept reserved := by simp
    obtain ⟨other, left, hkeeps⟩ :=
      Keeps.exists_of_valid toNat_lt_of_reserved hnone (.inl ⟨replaced, hreplaced⟩)
    obtain ⟨hother, hleft⟩ := hkeeps.encode_eq toNat_lt_of_reserved
    obtain rfl : replaced = other := Utf8.encode_injective (hreplaced.trans hother.symm)
    exact ⟨(gives_urlDecodeComponent_iff hpieces).mpr hreplaced, left,
      (gives_urlDecode_iff hpieces).mpr hleft, hkeeps⟩
  · rintro hnot name (rfl | rfl)
    · rcases unescape_cases reserved text with ⟨decoded, hdecoded⟩ | ⟨fault, hfault⟩
      · exact absurd (exists_gives_urlDecode_iff.mp
          ⟨decoded, gives_urlDecode.mpr hdecoded.symm⟩) hnot
      · exact ⟨fault, gives_urlDecode.mpr hfault.symm⟩
    · rcases unescape_cases [] text with ⟨decoded, hdecoded⟩ | ⟨fault, hfault⟩
      · exact absurd (exists_gives_urlDecodeComponent_iff.mp
          ⟨decoded, gives_urlDecodeComponent.mpr hdecoded.symm⟩) hnot
      · exact ⟨fault, gives_urlDecodeComponent.mpr hfault.symm⟩

/-- Two escapes that make up a character, one that stays, and one of a percent sign; and an escape
that begins a character which the next one does not go on with. -/
theorem decoding_exact_mixed :
    (∃ pieces, Scanned "%c3%A9%2f%25".toList pieces ∧
      Utf8.encode ['é', '/', '%'] = pieces.flatMap Piece.bytes ∧
      Gives "urlDecodeComponent".toList ["%c3%A9%2f%25".toList] (.ok ['é', '/', '%']) ∧
      ∃ left, Gives "urlDecode".toList ["%c3%A9%2f%25".toList] (.ok left) ∧
        Keeps reserved pieces ['é', '/', '%'] left) ∧
    ¬ WellEscaped "%c3%2f".toList ∧
      ∃ fault, Gives "urlDecode".toList ["%c3%2f".toList] (.error (.malformedEscape fault)) := by
  have hscanned : Scanned "%c3%A9%2f%25".toList
      [.escape 'c' '3' 0xC3, .escape 'A' '9' 0xA9, .escape '2' 'f' 0x2F, .escape '2' '5' 0x25] :=
    .escape (m := 12) (n := 3) (by decide) (by decide) <|
      .escape (m := 10) (n := 9) (by decide) (by decide) <|
      .escape (m := 2) (n := 15) (by decide) (by decide) <|
      .escape (m := 2) (n := 5) (by decide) (by decide) .nil
  have hbytes : Utf8.encode ['é', '/', '%'] = [0xC3, 0xA9, 0x2F, 0x25] := by decide
  have hill : ¬ WellEscaped "%c3%2f".toList := by
    rw [← exists_gives_urlDecode_iff]
    rintro ⟨decoded, hdecoded⟩
    rw [gives_urlDecode] at hdecoded
    cases hdecoded
  obtain ⟨hcomponent, hwhole⟩ := (decoding_exact _).2.2.1 _ _ hscanned hbytes
  exact ⟨⟨_, hscanned, hbytes, hcomponent, hwhole⟩, hill,
    (decoding_exact _).2.2.2 hill _ (.inl rfl)⟩

end Rowwise.Function
