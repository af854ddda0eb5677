import Rowwise.Proofs.Text.Validity
import Rowwise.Text.Percent

/-!
# Text — Escapes

Texts with percent escapes, read from left to right (`Scanned`): a percent sign begins an escape of
two hexadecimal digits, any other character stands for itself. Decoding fails on every other text,
and on these the outcome is told by the bytes of the pieces (`decode_of_scanned`).

A codec that keeps some ASCII characters escaped accepts the same texts as one that keeps none, as
no other character is made up of the byte of such an escape (`Keeps.exists_of_valid`). Encoding
writes pieces of one byte each, and never an escape that decoding keeps (`decode_encode`).
-/

namespace Rowwise

/-! ## Hexadecimal digits -/

namespace Hex

/-- A character is the digit of a number below 16, in either case. -/
def IsDigit (c : Char) (n : Nat) : Prop :=
  n < 16 ∧ (c = lowerDigit n ∨ c = upperDigit n)

instance (c : Char) (n : Nat) : Decidable (IsDigit c n) :=
  inferInstanceAs (Decidable (_ ∧ _))

theorem isDigit_of_value? {c : Char} {n : Nat} (h : value? c = some n) : IsDigit c n := by
  have htoNat : c.val.toNat = c.toNat := rfl
  have hzero : '0'.toNat = 48 ∧ '0'.val.toNat = 48 ∧ '9'.val.toNat = 57 := ⟨rfl, rfl, rfl⟩
  have hsmall : 'a'.toNat = 97 ∧ 'a'.val.toNat = 97 ∧ 'f'.val.toNat = 102 := ⟨rfl, rfl, rfl⟩
  have hcapital : 'A'.toNat = 65 ∧ 'A'.val.toNat = 65 ∧ 'F'.val.toNat = 70 := ⟨rfl, rfl, rfl⟩
  have hback : ∀ code, code = c.toNat → c = Char.ofNat code := by
    rintro _ rfl
    exact (Char.ofNat_toNat c).symm
  unfold value? at h
  simp only [Char.isDigit, Char.le_def, UInt32.le_iff_toNat_le, htoNat, Bool.and_eq_true,
    decide_eq_true_eq] at h
  split at h
  · obtain rfl := Option.some.inj h
    refine ⟨by omega, .inl ?_⟩
    rw [lowerDigit, if_pos (by omega)]
    exact hback _ (by omega)
  split at h
  · obtain rfl := Option.some.inj h
    refine ⟨by omega, .inl ?_⟩
    rw [lowerDigit, if_neg (by omega)]
    exact hback _ (by omega)
  split at h
  · obtain rfl := Option.some.inj h
    refine ⟨by omega, .inr ?_⟩
    rw [upperDigit, if_neg (by omega)]
    exact hback _ (by omega)
  · cases h

theorem value?_of_isDigit {c : Char} {n : Nat} (h : IsDigit c n) : value? c = some n := by
  have hdigits : ∀ n < 16, value? (lowerDigit n) = some n ∧ value? (upperDigit n) = some n := by
    decide
  rcases h.2 with rfl | rfl
  · exact (hdigits n h.1).1
  · exact (hdigits n h.1).2

end Hex

namespace Percent

open Rowwise.Utf8 (Valid encodeChar)

/-! ## Pieces -/

/-- A piece of an escaped text: a character that stands for itself, or an escape with the byte that
its digits write. -/
inductive Piece
  | plain (c : Char)
  | escape (high low : Char) (byte : UInt8)

/-- A text is read from left to right as these pieces: after a percent sign come two digits, which
are passed over. -/
inductive Scanned : Text → List Piece → Prop
  | nil : Scanned [] []
  | plain {c : Char} {rest : Text} {pieces : List Piece} (hc : c ≠ '%') (h : Scanned rest pieces) :
    Scanned (c :: rest) (.plain c :: pieces)
  | escape {high low : Char} {m n : Nat} {rest : Text} {pieces : List Piece}
    (hhigh : Hex.IsDigit high m) (hlow : Hex.IsDigit low n) (h : Scanned rest pieces) :
    Scanned ('%' :: high :: low :: rest) (.escape high low (UInt8.ofNat (16 * m + n)) :: pieces)

namespace Piece

/-- The bytes of a piece, with an escape replaced by its byte. -/
def bytes : Piece → Bytes
  | plain c => encodeChar c
  | escape _ _ byte => [byte]

/-- The escape of one of some characters. -/
def IsKept (kept : List Char) : Piece → Prop
  | plain _ => False
  | escape _ _ byte => Char.ofNat byte.toNat ∈ kept

/-- The bytes of a piece, where the escapes of some characters stay as they are written. -/
def keptBytes (kept : List Char) : Piece → Bytes
  | plain c => encodeChar c
  | escape high low byte =>
    if Char.ofNat byte.toNat ∈ kept then Utf8.encode ['%', high, low] else [byte]

theorem keptBytes_of_not_isKept {kept : List Char} {piece : Piece} (h : ¬ piece.IsKept kept) :
    piece.keptBytes kept = piece.bytes := by
  cases piece with
  | plain c => rfl
  | escape high low byte => exact if_neg h

theorem flatMap_keptBytes {kept : List Char} {pieces : List Piece}
    (h : ∀ piece ∈ pieces, ¬ piece.IsKept kept) :
    pieces.flatMap (keptBytes kept) = pieces.flatMap bytes := by
  rw [List.flatMap_def, List.flatMap_def, List.map_congr_left fun piece hpiece =>
    keptBytes_of_not_isKept (h piece hpiece)]

end Piece

/-! ## Decoding -/

theorem hexByte?_of_isDigit {high low : Char} {m n : Nat} (hhigh : Hex.IsDigit high m)
    (hlow : Hex.IsDigit low n) : hexByte? high low = some (UInt8.ofNat (16 * m + n)) := by
  rw [hexByte?, Hex.value?_of_isDigit hhigh, Hex.value?_of_isDigit hlow]

theorem exists_of_hexByte? {high low : Char} {byte : UInt8} (h : hexByte? high low = some byte) :
    ∃ m n, Hex.IsDigit high m ∧ Hex.IsDigit low n ∧ byte = UInt8.ofNat (16 * m + n) := by
  unfold hexByte? at h
  split at h
  · rename_i m n hhigh hlow
    exact ⟨m, n, Hex.isDigit_of_value? hhigh, Hex.isDigit_of_value? hlow, (Option.some.inj h).symm⟩
  · cases h

theorem bytes_cons {c : Char} (hc : c ≠ '%') (kept : List Char) (rest : Text) :
    bytes kept (c :: rest) = (bytes kept rest).map (encodeChar c ++ ·) := by
  rw [bytes, if_neg hc]
  exact fun _ _ _ hpercent => absurd hpercent hc

/-- A text that is read as pieces has the bytes of the pieces, one after the other. -/
theorem bytes_of_scanned {text : Text} {pieces : List Piece} (kept : List Char)
    (h : Scanned text pieces) : bytes kept text = .ok (pieces.flatMap (Piece.keptBytes kept)) := by
  induction h with
  | nil => rfl
  | plain hc _ ih =>
    rw [bytes_cons hc, ih]
    rfl
  | escape hhigh hlow _ ih =>
    rw [bytes, hexByte?_of_isDigit hhigh hlow]
    dsimp only
    rw [ih]
    rfl

/-- Every text is read as pieces, or else has an escape without two digits. -/
theorem exists_scanned_or (text : Text) :
    (∃ pieces, Scanned text pieces) ∨ ∃ shown, ∀ kept, bytes kept text = .error (.escape shown) := by
  fun_induction bytes [] text with
  | case1 => exact .inl ⟨[], .nil⟩
  | case2 high low rest hnone =>
    refine .inr ⟨['%', high, low], fun kept => ?_⟩
    rw [bytes, hnone]
  | case3 high low rest byte hsome own =>
    rename_i ih
    obtain ⟨m, n, hhigh, hlow, rfl⟩ := exists_of_hexByte? hsome
    rcases ih with ⟨pieces, hpieces⟩ | ⟨shown, hshown⟩
    · exact .inl ⟨_, .escape hhigh hlow hpieces⟩
    · refine .inr ⟨shown, fun kept => ?_⟩
      rw [bytes, hsome]
      dsimp only
      rw [hshown]
      rfl
  | case4 rest hshort =>
    refine .inr ⟨('%' :: rest).take 3, fun kept => ?_⟩
    rw [bytes, if_pos rfl]
    exact fun high low more _ => hshort high low more rfl
  | case5 c rest _ hc ih =>
    rcases ih with ⟨pieces, hpieces⟩ | ⟨shown, hshown⟩
    · exact .inl ⟨_, .plain hc hpieces⟩
    · refine .inr ⟨shown, fun kept => ?_⟩
      rw [bytes_cons hc, hshown]
      rfl

/-- **Decoding gives the text of the bytes**: a text that is read as pieces is decoded to the text
whose bytes the pieces have, and to no other. -/
theorem decode_of_scanned {text : Text} {pieces : List Piece} (h : Scanned text pieces)
    (kept : List Char) {decoded : Text} : decode kept text = .ok decoded ↔
      Utf8.encode decoded = pieces.flatMap (Piece.keptBytes kept) := by
  rw [decode, bytes_of_scanned kept h, ← Utf8.decode_eq_ok_iff]
  dsimp only
  cases Utf8.decode (pieces.flatMap (Piece.keptBytes kept)) <;> simp

/-- Whatever is decoded to a text is read as pieces. -/
theorem exists_scanned_of_decode {kept : List Char} {text decoded : Text}
    (h : decode kept text = .ok decoded) : ∃ pieces, Scanned text pieces := by
  rcases exists_scanned_or text with hscanned | ⟨shown, hshown⟩
  · exact hscanned
  · rw [decode, hshown] at h
    cases h

/-! ## Escapes that stay -/

/-- Two readings of some pieces that differ in the escapes of the `kept` characters only: there one
has the character and the other one the escape as it is written. Between these escapes stand the
texts of the bytes of the other pieces. -/
inductive Keeps (kept : List Char) : List Piece → Text → Text → Prop
  | run {pieces : List Piece} {text : Text} (h : ∀ piece ∈ pieces, ¬ piece.IsKept kept)
    (htext : Utf8.encode text = pieces.flatMap Piece.bytes) : Keeps kept pieces text text
  | kept {run pieces : List Piece} {text replaced left : Text} {high low : Char} {byte : UInt8}
    (h : ∀ piece ∈ run, ¬ piece.IsKept kept)
    (htext : Utf8.encode text = run.flatMap Piece.bytes) (hbyte : Char.ofNat byte.toNat ∈ kept)
    (hrest : Keeps kept pieces replaced left) :
    Keeps kept (run ++ .escape high low byte :: pieces)
      (text ++ Char.ofNat byte.toNat :: replaced) (text ++ '%' :: high :: low :: left)

section Kept

variable {kept : List Char}

/-- The byte of a kept character is ASCII. -/
theorem toNat_lt_of_mem (hkept : ∀ c ∈ kept, c.toNat < 0x80) {byte : UInt8}
    (h : Char.ofNat byte.toNat ∈ kept) : byte.toNat < 0x80 := by
  have hbyte := byte.toNat_lt
  have hcode : (Char.ofNat byte.toNat).toNat = byte.toNat :=
    Utf8.toNat_ofNat_of_valid (by omega)
  have hsmall := hkept _ h
  omega

theorem flatMap_keptBytes_escape {run pieces : List Piece} {high low : Char} {byte : UInt8}
    (h : ∀ piece ∈ run, ¬ piece.IsKept kept) (hbyte : Char.ofNat byte.toNat ∈ kept) :
    (run ++ .escape high low byte :: pieces).flatMap (Piece.keptBytes kept) =
      run.flatMap Piece.bytes ++
        (Utf8.encode ['%', high, low] ++ pieces.flatMap (Piece.keptBytes kept)) := by
  rw [List.flatMap_append, Piece.flatMap_keptBytes h, List.flatMap_cons, Piece.keptBytes,
    if_pos hbyte]

theorem flatMap_bytes_escape (run pieces : List Piece) (high low : Char) (byte : UInt8) :
    (run ++ .escape high low byte :: pieces).flatMap Piece.bytes =
      run.flatMap Piece.bytes ++ byte :: pieces.flatMap Piece.bytes := by
  rw [List.flatMap_append, List.flatMap_cons, Piece.bytes, List.singleton_append]

theorem valid_append_escape {front back : Bytes} {high low : Char} :
    Valid (front ++ (Utf8.encode ['%', high, low] ++ back)) ↔ Valid front ∧ Valid back := by
  have hpercent : encodeChar '%' = [0x25] := rfl
  rw [Utf8.encode_cons, hpercent, List.append_assoc, List.singleton_append,
    Utf8.valid_append_ascii (by decide), Utf8.valid_encode_append]

variable (hkept : ∀ c ∈ kept, c.toNat < 0x80)

include hkept

/-- With every escape replaced the pieces read as their bytes, and with some escapes left as their
kept bytes. -/
theorem Keeps.encode_eq {pieces : List Piece} {replaced left : Text}
    (h : Keeps kept pieces replaced left) :
    Utf8.encode replaced = pieces.flatMap Piece.bytes ∧
      Utf8.encode left = pieces.flatMap (Piece.keptBytes kept) := by
  induction h with
  | run h htext => exact ⟨htext, htext.trans (Piece.flatMap_keptBytes h).symm⟩
  | @kept run pieces text replaced left high low byte h htext hbyte _ ih =>
    constructor
    · rw [flatMap_bytes_escape, Utf8.encode_append, Utf8.encode_cons,
        Utf8.encodeChar_ofNat (toNat_lt_of_mem hkept hbyte), htext, ih.1, List.singleton_append]
    · rw [flatMap_keptBytes_escape h hbyte, ← htext, ← ih.2, ← Utf8.encode_append,
        ← Utf8.encode_append]
      rfl

/-- **Either both readings are texts or none is.** An escape that stays is three characters in one
reading and one ASCII character in the other, so in either the bytes before it and those after it
are texts by themselves. -/
theorem Keeps.exists_of_valid {run pieces : List Piece}
    (hrun : ∀ piece ∈ run, ¬ piece.IsKept kept)
    (h : Valid ((run ++ pieces).flatMap Piece.bytes) ∨
      Valid ((run ++ pieces).flatMap (Piece.keptBytes kept))) :
    ∃ replaced left, Keeps kept (run ++ pieces) replaced left := by
  -- the pieces since the last escape that stays are still open
  induction pieces generalizing run with
  | nil =>
    rw [List.append_nil] at h ⊢
    rw [Piece.flatMap_keptBytes hrun, or_self] at h
    obtain ⟨text, htext⟩ := h
    exact ⟨text, text, .run hrun htext⟩
  | cons piece pieces ih =>
    by_cases hpiece : piece.IsKept kept
    · cases piece with
      | plain c => exact absurd hpiece id
      | escape high low byte =>
        rw [flatMap_bytes_escape, flatMap_keptBytes_escape hrun hpiece, valid_append_escape,
          Utf8.valid_append_ascii (toNat_lt_of_mem hkept hpiece), ← and_or_left] at h
        obtain ⟨⟨text, htext⟩, hpieces⟩ := h
        have hnone : ∀ other ∈ ([] : List Piece), ¬ other.IsKept kept := by simp
        obtain ⟨replaced, left, hrest⟩ := ih hnone hpieces
        exact ⟨_, _, .kept hrun htext hpiece hrest⟩
    · have hmore : ∀ other ∈ run ++ [piece], ¬ other.IsKept kept := by
        intro other hother
        rcases List.mem_append.mp hother with hother | hother
        · exact hrun other hother
        · rwa [List.mem_singleton.mp hother]
      rw [List.append_cons] at h ⊢
      exact ih hmore h

theorem valid_keptBytes_iff {pieces : List Piece} :
    Valid (pieces.flatMap (Piece.keptBytes kept)) ↔ Valid (pieces.flatMap Piece.bytes) := by
  have hnone : ∀ piece ∈ ([] : List Piece), ¬ piece.IsKept kept := by simp
  constructor
  · intro h
    obtain ⟨replaced, left, hkeeps⟩ := Keeps.exists_of_valid hkept hnone (.inr h)
    exact ⟨replaced, (hkeeps.encode_eq hkept).1⟩
  · intro h
    obtain ⟨replaced, left, hkeeps⟩ := Keeps.exists_of_valid hkept hnone (.inl h)
    exact ⟨left, (hkeeps.encode_eq hkept).2⟩

end Kept

/-! ## Encoding -/

/-- The piece that a byte is written as. -/
def pieceOf (extra : List Char) (byte : UInt8) : Piece :=
  if byte < 0x80 ∧ isPlain extra (Char.ofNat byte.toNat) then .plain (Char.ofNat byte.toNat)
  else .escape (Hex.upperDigit (byte.toNat / 16)) (Hex.upperDigit (byte.toNat % 16)) byte

/-- Escaped text is ASCII letters and digits, marks, some extra characters, and escapes with
upper-case digits. -/
inductive Escaped (extra : List Char) : Text → Prop
  | nil : Escaped extra []
  | plain {c : Char} {rest : Text} (hc : c.isAlphanum ∨ c ∈ marks ∨ c ∈ extra)
    (h : Escaped extra rest) : Escaped extra (c :: rest)
  | escape {m n : Nat} {rest : Text} (hm : m < 16) (hn : n < 16) (h : Escaped extra rest) :
    Escaped extra ('%' :: Hex.upperDigit m :: Hex.upperDigit n :: rest)

section Encode

variable {extra : List Char}

theorem encodeByte_plain {byte : UInt8} (h : byte < 0x80 ∧ isPlain extra (Char.ofNat byte.toNat)) :
    encodeByte extra byte = [Char.ofNat byte.toNat] :=
  if_pos h

theorem encodeByte_escape {byte : UInt8}
    (h : ¬ (byte < 0x80 ∧ isPlain extra (Char.ofNat byte.toNat))) :
    encodeByte extra byte = escapeByte byte :=
  if_neg h

theorem isPlain_iff {c : Char} :
    isPlain extra c ↔ c.isAlphanum ∨ c ∈ marks ∨ c ∈ extra := by
  simp [isPlain, or_assoc]

theorem bytes_pieceOf (byte : UInt8) : (pieceOf extra byte).bytes = [byte] := by
  unfold pieceOf
  split
  · rename_i hplain
    rw [Piece.bytes, Utf8.encodeChar_ofNat (UInt8.lt_iff_toNat_lt.mp hplain.1)]
  · rfl

theorem flatMap_bytes_pieceOf (bytes : Bytes) :
    (bytes.map (pieceOf extra)).flatMap Piece.bytes = bytes := by
  rw [List.flatMap_map]
  simp only [bytes_pieceOf, List.flatMap_singleton']

/-- What is written is read again as the pieces that were written. -/
theorem scanned_flatMap_encodeByte (hpercent : '%' ∉ extra) (bytes : Bytes) :
    Scanned (bytes.flatMap (encodeByte extra)) (bytes.map (pieceOf extra)) := by
  have hnot : ¬ isPlain extra '%' := by
    rw [isPlain_iff]
    rintro (h | h | h)
    · exact absurd h (by decide)
    · exact absurd h (by decide)
    · exact hpercent h
  induction bytes with
  | nil => exact .nil
  | cons byte bytes ih =>
    rw [List.flatMap_cons, List.map_cons, pieceOf]
    split
    · rename_i hplain
      rw [encodeByte_plain hplain]
      refine .plain (fun heq => ?_) ih
      rw [heq] at hplain
      exact hnot hplain.2
    · rename_i hescape
      have hbyte := byte.toNat_lt
      have hhigh : Hex.IsDigit (Hex.upperDigit (byte.toNat / 16)) (byte.toNat / 16) :=
        ⟨by omega, .inr rfl⟩
      have hlow : Hex.IsDigit (Hex.upperDigit (byte.toNat % 16)) (byte.toNat % 16) :=
        ⟨by omega, .inr rfl⟩
      have hscanned := Scanned.escape hhigh hlow ih
      rw [Nat.div_add_mod, UInt8.ofNat_toNat] at hscanned
      rw [encodeByte_escape hescape]
      exact hscanned

/-- No escape that is written is one that stays, if the characters whose escapes stay are plain. -/
theorem not_isKept_pieceOf {kept : List Char} (hkept : ∀ c ∈ kept, c.toNat < 0x80)
    (hextra : kept ⊆ extra) (byte : UInt8) : ¬ (pieceOf extra byte).IsKept kept := by
  unfold pieceOf
  split
  · exact id
  · rename_i hescape
    intro hmem
    have hbyte : byte < 0x80 := UInt8.lt_iff_toNat_lt.mpr (toNat_lt_of_mem hkept hmem)
    exact hescape ⟨hbyte, isPlain_iff.mpr (.inr (.inr (hextra hmem)))⟩

/-- **Decoding undoes encoding**, if what decoding keeps is what encoding leaves alone. -/
theorem decode_encode {kept : List Char} (hkept : ∀ c ∈ kept, c.toNat < 0x80)
    (hextra : kept ⊆ extra) (hpercent : '%' ∉ extra) (text : Text) :
    decode kept (encode extra text) = .ok text := by
  have hscanned := scanned_flatMap_encodeByte hpercent (Utf8.encode text)
  rw [encode, decode_of_scanned hscanned, Piece.flatMap_keptBytes, flatMap_bytes_pieceOf]
  intro piece hpiece
  obtain ⟨byte, -, rfl⟩ := List.mem_map.mp hpiece
  exact not_isKept_pieceOf hkept hextra byte

theorem escaped_encode (extra : List Char) (text : Text) : Escaped extra (encode extra text) := by
  unfold encode
  induction Utf8.encode text with
  | nil => exact .nil
  | cons byte bytes ih =>
    rw [List.flatMap_cons]
    by_cases hplain : byte < 0x80 ∧ isPlain extra (Char.ofNat byte.toNat)
    · rw [encodeByte_plain hplain]
      exact .plain (isPlain_iff.mp hplain.2) ih
    · have hbyte := byte.toNat_lt
      rw [encodeByte_escape hplain]
      exact .escape (by omega) (by omega) ih

end Encode

end Percent

end Rowwise
