import Rowwise.Proofs.Text.Encoding
import Rowwise.Server.Upload
import Rowwise.Table.Input

/-!
# Charset — Unmarked

Text in UTF-8 without a byte-order mark, read as bytes of unknown encoding. The main statement is
that it is told to be UTF-8 and read unchanged, if it is ASCII without an escape character or holds
two characters outside ASCII.

Five such characters make UTF-8 certain. With fewer the guess compares two confidences, and the
one in Latin-1 is never above 73 parts in a hundred, whatever the bytes are
(`latin1Confidence_le`), while two characters are enough for UTF-8 to reach more
(`le_utf8Confidence`).
-/

namespace Rowwise.Charset

/-! ## Byte-order marks -/

/-- The bytes of a text leave out those that UTF-16 marks are made of. -/
theorem lt_of_mem_encode {text : Text} {byte : UInt8} (h : byte ∈ Utf8.encode text) :
    byte.toNat < 0xF5 := by
  obtain ⟨c, -, hc⟩ := List.mem_flatMap.mp h
  by_cases hascii : c.toNat < 0x80
  · rw [Utf8.encodeChar_of_ascii hascii, List.mem_singleton] at hc
    rw [hc, UInt8.toNat_ofNat']
    omega
  · obtain ⟨first, rest, hbytes, -, hfirst, hrest⟩ :=
      Utf8.exists_encodeChar_of_wide (Nat.not_lt.mp hascii)
    rw [hbytes] at hc
    rcases List.mem_cons.mp hc with rfl | hc
    · exact hfirst
    · have := hrest byte hc
      omega

/-- The mark in UTF-8 is a character, which the text would begin with. -/
theorem not_utf8Mark_prefix {text : Text} (hmark : text.head? ≠ some '\uFEFF') (rest : Bytes) :
    [0xEF, 0xBB, 0xBF] ++ rest ≠ Utf8.encode text := by
  intro h
  have hitems : Utf8.items (Utf8.encode text) = .char '\uFEFF' :: Utf8.items rest := by
    rw [← h]
    exact Utf8.itemsFrom_encodeChar '\uFEFF' rest
  rw [Utf8.items_encode] at hitems
  cases text with
  | nil => cases hitems
  | cons c text =>
    injection hitems with hc
    injection hc with hc
    exact hmark (congrArg some hc)

theorem find?_marks_encode {text : Text} (hmark : text.head? ≠ some '\uFEFF') :
    (marks.find? fun mark => mark.1.isPrefixOf (Utf8.encode text)) = none := by
  rw [List.find?_eq_none]
  intro mark hmem hprefix
  obtain ⟨rest, hrest⟩ := List.isPrefixOf_iff_prefix.mp hprefix
  have hnot : ∀ byte ∈ mark.1, byte.toNat < 0xF5 := by
    intro byte hbyte
    have hmember : byte ∈ Utf8.encode text := hrest ▸ List.mem_append_left rest hbyte
    exact lt_of_mem_encode hmember
  -- all marks but the one in UTF-8 hold a byte that no text has
  have hmarks : ∀ mark ∈ marks, mark.1 = [0xEF, 0xBB, 0xBF] ∨
      ∃ byte ∈ mark.1, ¬ byte.toNat < 0xF5 := by
    decide
  rcases hmarks mark hmem with hutf8 | ⟨byte, hbyte, hlarge⟩
  · exact not_utf8Mark_prefix hmark rest (hutf8 ▸ hrest)
  · exact hlarge (hnot byte hbyte)

/-! ## Confidence -/

theorem Confidence.le_trans {a b c : Confidence} (hb : 0 < b.den) (hab : a.le b) (hbc : b.le c) :
    a.le c := by
  simp only [Confidence.le, decide_eq_true_eq] at *
  refine Nat.le_of_mul_le_mul_right ?_ hb
  calc a.num * c.den * b.den = a.num * b.den * c.den := by ac_rfl
    _ ≤ b.num * a.den * c.den := Nat.mul_le_mul_right _ hab
    _ = b.num * c.den * a.den := by ac_rfl
    _ ≤ c.num * b.den * a.den := Nat.mul_le_mul_right _ hbc
    _ = c.num * a.den * b.den := by ac_rfl

/-- **Latin-1 is never surer than 73 parts in a hundred**: no more pairs can be common than there
are pairs. -/
theorem latin1Confidence_le (bytes : Bytes) : (latin1Confidence bytes).le ⟨73, 100⟩ := by
  rw [latin1Confidence]
  generalize grades .other (latin1Runs false [] bytes) = found
  split
  · decide
  split
  · decide
  · have hcount : found.count 3 ≤ found.length := List.count_le_length
    simp only [Confidence.le, decide_eq_true_eq]
    omega

/-- Two characters outside ASCII are enough for UTF-8 to be surer. -/
theorem le_utf8Confidence {wide : Nat} (h : 2 ≤ wide) :
    (Confidence.mk 73 100).le (utf8Confidence wide) := by
  have hfew : ∀ wide < 6, 2 ≤ wide → (Confidence.mk 73 100).le (utf8Confidence wide) := by
    decide
  by_cases hwide : wide < 6
  · exact hfew wide hwide h
  · rw [utf8Confidence, if_pos (Nat.not_lt.mp hwide)]
    decide

/-! ## The guess -/

/-- A character outside ASCII. -/
def isWide (c : Char) : Bool :=
  0x80 ≤ c.toNat

theorem countWide_chars (text : Text) :
    countWide (text.map .char) = (text.countP isWide, true) := by
  induction text with
  | nil => rfl
  | cons c text ih =>
    rw [List.map_cons, countWide, ih, List.countP_cons]
    by_cases hc : c.toNat < 0x80
    · simp [isWide, hc]
    · simp [isWide, hc, Nat.not_lt.mp hc]

theorem ascii_of_mem_encode {text : Text} (h : ∀ c ∈ text, c.toNat < 0x80 ∧ c ≠ '\x1B')
    {byte : UInt8} (hbyte : byte ∈ Utf8.encode text) : byte < 0x80 ∧ byte ≠ 0x1B := by
  obtain ⟨c, hc, hin⟩ := List.mem_flatMap.mp hbyte
  obtain ⟨hascii, hescape⟩ := h c hc
  rw [Utf8.encodeChar_of_ascii hascii, List.mem_singleton] at hin
  have htoNat : byte.toNat = c.toNat := by
    rw [hin, UInt8.toNat_ofNat']
    omega
  refine ⟨?_, ?_⟩
  · rw [UInt8.lt_iff_toNat_lt, htoNat]
    exact hascii
  · rintro rfl
    refine hescape ?_
    rw [← Char.ofNat_toNat c, ← htoNat]
    rfl

/-- The first byte of a character outside ASCII shows that a text is not ASCII. -/
theorem not_all_ascii {text : Text} (h : 0 < text.countP isWide) :
    ¬ (Utf8.encode text).all fun byte => byte < 0x80 || byte == 0xA0 := by
  obtain ⟨c, hc, hwide⟩ := List.countP_pos_iff.mp h
  obtain ⟨first, rest, hbytes, hfirst, -, -⟩ :=
    Utf8.exists_encodeChar_of_wide (by simpa [isWide] using hwide)
  have hmem : first ∈ Utf8.encode text := List.mem_flatMap.mpr ⟨c, hc, by simp [hbytes]⟩
  intro hall
  have hbyte := List.all_eq_true.mp hall first hmem
  rw [Bool.or_eq_true, decide_eq_true_eq, beq_iff_eq, UInt8.lt_iff_toNat_lt] at hbyte
  rcases hbyte with hlow | hspace
  · simp at hlow
    omega
  · rw [hspace] at hfirst
    exact absurd hfirst (by decide)

/-- **The bytes of a text are told to be UTF-8**, if the text is plain ASCII or wide enough. -/
theorem detect_encode {text : Text} (hmark : text.head? ≠ some '\uFEFF')
    (h : (∀ c ∈ text, c.toNat < 0x80 ∧ c ≠ '\x1B') ∨ 2 ≤ text.countP isWide) :
    detect (Utf8.encode text) = .ok "utf-8" := by
  rw [detect, find?_marks_encode hmark]
  dsimp only
  rcases h with hascii | hwide
  · have hall : (Utf8.encode text).all fun byte => byte < 0x80 || byte == 0xA0 := by
      rw [List.all_eq_true]
      intro byte hbyte
      simp [(ascii_of_mem_encode hascii hbyte).1]
    have hnone : (Utf8.encode text).contains 0x1B = false := by
      rw [Bool.eq_false_iff]
      intro hcontains
      exact (ascii_of_mem_encode hascii (List.contains_iff_mem.mp hcontains)).2 rfl
    rw [if_pos hall, hnone]
    rfl
  · have hle : (latin1Confidence (Utf8.encode text)).le (utf8Confidence (text.countP isWide)) :=
      Confidence.le_trans (b := ⟨73, 100⟩) (by decide) (latin1Confidence_le _)
        (le_utf8Confidence hwide)
    rw [if_neg (not_all_ascii (by omega)), Utf8.items_encode, countWide_chars]
    dsimp only
    rw [hle, Bool.or_true, if_pos rfl]
    -- a guess that is not certain is UTF-8 all the same
    exact ite_self _

/-! ## Reading -/

theorem dropMark_of_unmarked {text : Text} (hmark : text.head? ≠ some '\uFEFF') :
    dropMark text = text := by
  cases text with
  | nil => rfl
  | cons c rest =>
    refine if_neg fun hc => hmark (congrArg some ?_)
    rw [← Char.ofNat_toNat c, hc]

theorem decode_encode (decoders : Decoders) {text : Text}
    (hmark : text.head? ≠ some '\uFEFF') :
    decode decoders (Utf8.encode text) "utf-8".toList = .ok text := by
  have hmode : mode (Text.lower "utf-8".toList) = .lossyUtf8 := by
    decide +kernel
  rw [decode, hmode]
  dsimp only
  rw [Utf8.decodeLossy_encode, dropMark_of_unmarked hmark]

/-- **Unmarked UTF-8 is read unchanged.** Of a text that does not begin with a byte-order mark, and
that is ASCII without an escape character or holds two characters outside ASCII, the bytes in UTF-8
are told to be UTF-8; in that encoding they decode to the text; read as a table they give the table
of the text, whatever the separator and with headers or without; and uploaded they give a request
for the text. The decoders of other encodings play no part. -/
theorem unmarked_utf8_survives (decoders : Decoders) {text : Text}
    (hmark : text.head? ≠ some '\uFEFF')
    (h : (∀ c ∈ text, c.toNat < 0x80 ∧ c ≠ '\x1B') ∨
      2 ≤ text.countP fun c => 0x80 ≤ c.toNat) :
    detect (Utf8.encode text) = .ok "utf-8" ∧
      decode decoders (Utf8.encode text) "utf-8".toList = .ok text ∧
      (∀ kind header, Table.parseBytes decoders (Utf8.encode text) kind header
        = .ok (Table.parse text kind header)) ∧
      ∀ pattern separator header,
        Server.Upload.ofBytes decoders (Utf8.encode text) pattern separator header
          = .ok ⟨"utf-8", text, pattern, separator.getD (Separator.detect text), header⟩ := by
  have hdetect := detect_encode hmark h
  have hdecode := decode_encode decoders hmark
  have hread : read decoders (Utf8.encode text) = .ok ⟨"utf-8", text⟩ := by
    rw [read, encodingOf, hdetect]
    dsimp only [Except.mapError, bind, Except.bind]
    rw [decodeAs, hdecode]
    rfl
  refine ⟨hdetect, hdecode, ?_, ?_⟩
  · intro kind header
    rw [Table.parseBytes, hread]
    rfl
  · intro pattern separator header
    rw [Server.Upload.ofBytes, hread]
    rfl

/-- Two characters outside ASCII, of two and of four bytes, with an escape character between. -/
theorem unmarked_utf8_survives_two :
    "é\x1B,😀".toList.head? ≠ some '\uFEFF' ∧
      (2 ≤ "é\x1B,😀".toList.countP fun c => 0x80 ≤ c.toNat) ∧
      detect [0xC3, 0xA9, 0x1B, 0x2C, 0xF0, 0x9F, 0x98, 0x80] = .ok "utf-8" ∧
      Table.parseBytes .asciiOnly [0xC3, 0xA9, 0x1B, 0x2C, 0xF0, 0x9F, 0x98, 0x80] .comma false
        = .ok ⟨[], [["é\x1B".toList, "😀".toList]]⟩ := by
  have hmark : "é\x1B,😀".toList.head? ≠ some '\uFEFF' := by decide
  have hwide : 2 ≤ "é\x1B,😀".toList.countP fun c => 0x80 ≤ c.toNat := by decide
  obtain ⟨hdetect, -, hparse, -⟩ := unmarked_utf8_survives .asciiOnly hmark (.inr hwide)
  exact ⟨hmark, hwide, hdetect, hparse .comma false⟩

end Rowwise.Charset
