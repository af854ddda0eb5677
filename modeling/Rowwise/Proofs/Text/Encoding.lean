import Rowwise.Text.Utf8

/-!
# Text — Encoding

What is encoded is decoded again: the decoder finds the characters of a text in its bytes and no
fault. The proof is about one character with any bytes after it (`itemsFrom_encodeChar`), by the
number of its bytes: the first byte tells how many follow and in which range the next one lies, and
every further byte adds six bits.
-/

namespace Rowwise.Utf8

/-! ## Single bytes -/

theorem lead_ascii : ∀ code < 0x80,
    lead (UInt8.ofNat code) = ([.char (Char.ofNat code)], .ready) := by
  decide

theorem lead_two : ∀ top < 0x20, 2 ≤ top →
    lead (UInt8.ofNat (0xC0 + top)) = ([], .inside 1 1 top 0x80 0xBF) := by
  decide

/-- After the first byte of three, the second one leaves out what two bytes can encode, and the
surrogates. -/
theorem lead_three : ∀ top < 0x10,
    lead (UInt8.ofNat (0xE0 + top)) =
      ([], .inside 1 2 top (if top = 0 then 0xA0 else 0x80) (if top = 0xD then 0x9F else 0xBF)) := by
  decide

/-- After the first byte of four, the second one leaves out what three bytes can encode, and what
lies beyond all characters. -/
theorem lead_four : ∀ top < 5,
    lead (UInt8.ofNat (0xF0 + top)) =
      ([], .inside 1 3 top (if top = 0 then 0x90 else 0x80) (if top = 4 then 0x8F else 0xBF)) := by
  decide

theorem toNat_continuation (bits : Nat) : (continuation bits).toNat = 0x80 + bits % 0x40 := by
  rw [continuation, UInt8.toNat_ofNat']
  omega

theorem itemsFrom_cons (state : State) (byte : UInt8) (bytes : Bytes) :
    itemsFrom state (byte :: bytes) =
      (step state byte).1 ++ itemsFrom (step state byte).2 bytes := by
  cases state <;> rfl

theorem itemsFrom_lead {byte : UInt8} {state : State} (h : lead byte = ([], state))
    (bytes : Bytes) : itemsFrom .ready (byte :: bytes) = itemsFrom state bytes := by
  rw [itemsFrom_cons, step, h]
  rfl

section Continuation

variable {read value bits : Nat} {low high : UInt8} (hlow : low.toNat ≤ 0x80 + bits % 0x40)
  (hhigh : 0x80 + bits % 0x40 ≤ high.toNat)

include hlow hhigh

theorem continuation_within : low ≤ continuation bits ∧ continuation bits ≤ high := by
  rw [UInt8.le_iff_toNat_le, UInt8.le_iff_toNat_le, toNat_continuation]
  exact ⟨hlow, hhigh⟩

/-- A byte inside a character, if it is not the last one, adds six bits to what has been read. -/
theorem itemsFrom_inner (needed : Nat) (bytes : Bytes) :
    itemsFrom (.inside read (needed + 2) value low high) (continuation bits :: bytes) =
      itemsFrom (.inside (read + 1) (needed + 1) (value * 0x40 + bits % 0x40) 0x80 0xBF) bytes := by
  have hbits : (continuation bits).toNat - 0x80 = bits % 0x40 := by
    rw [toNat_continuation]
    omega
  rw [itemsFrom_cons, step, if_pos (continuation_within hlow hhigh), if_neg (by omega), hbits]
  rfl

/-- The last byte of a character completes it. -/
theorem itemsFrom_last (c : Char) (hc : value * 0x40 + bits % 0x40 = c.toNat) (bytes : Bytes) :
    itemsFrom (.inside read 1 value low high) (continuation bits :: bytes) =
      .char c :: itemsFrom .ready bytes := by
  have hbits : (continuation bits).toNat - 0x80 = bits % 0x40 := by
    rw [toNat_continuation]
    omega
  rw [itemsFrom_cons, step, if_pos (continuation_within hlow hhigh), if_pos (by omega), hbits, hc,
    Char.ofNat_toNat]
  rfl

end Continuation

/-! ## Characters -/

/-- **The bytes of a character**, with any bytes after them, are found to be that character. -/
theorem itemsFrom_encodeChar (c : Char) (bytes : Bytes) :
    itemsFrom .ready (encodeChar c ++ bytes) = .char c :: itemsFrom .ready bytes := by
  have hvalid : c.toNat < 0xD800 ∨ 0xDFFF < c.toNat ∧ c.toNat < 0x110000 := c.valid
  have hlow : ∀ bits, (0x80 : UInt8).toNat ≤ 0x80 + bits % 0x40 := fun bits => by
    simp
  have hhigh : ∀ bits, 0x80 + bits % 0x40 ≤ (0xBF : UInt8).toNat := fun bits => by
    simp
    omega
  unfold encodeChar
  dsimp only
  split
  · next hone =>
    rw [List.singleton_append, itemsFrom_cons, step, lead_ascii _ hone, Char.ofNat_toNat]
    rfl
  split
  · next htwo =>
    have hlead := lead_two (c.toNat / 0x40) (by omega) (by omega)
    rw [List.cons_append, itemsFrom_lead hlead, List.singleton_append,
      itemsFrom_last (hlow _) (hhigh _) c (by omega)]
  split
  · next hthree =>
    have hlead := lead_three (c.toNat / 0x1000) (by omega)
    rw [List.cons_append, itemsFrom_lead hlead, List.cons_append, itemsFrom_inner,
      List.singleton_append, itemsFrom_last (hlow _) (hhigh _) c (by omega)]
    · split
      · simp
        omega
      · exact hlow _
    · split
      · simp
        omega
      · exact hhigh _
  · have hlead := lead_four (c.toNat / 0x40000) (by omega)
    rw [List.cons_append, itemsFrom_lead hlead, List.cons_append, itemsFrom_inner,
      List.cons_append, itemsFrom_inner (hlow _) (hhigh _), List.singleton_append,
      itemsFrom_last (hlow _) (hhigh _) c (by omega)]
    · split
      · simp
        omega
      · exact hlow _
    · split
      · simp
        omega
      · exact hhigh _

theorem encodeChar_of_ascii {c : Char} (h : c.toNat < 0x80) :
    encodeChar c = [UInt8.ofNat c.toNat] := by
  rw [encodeChar, if_pos h]

/-- The bytes of a character outside ASCII: the ranges of its first byte, of its other bytes and
of ASCII lie apart. -/
theorem exists_encodeChar_of_wide {c : Char} (h : 0x80 ≤ c.toNat) :
    ∃ first rest, encodeChar c = first :: rest ∧ 0xC2 ≤ first.toNat ∧ first.toNat < 0xF5 ∧
      ∀ byte ∈ rest, 0x80 ≤ byte.toNat ∧ byte.toNat < 0xC0 := by
  have hvalid : c.toNat < 0xD800 ∨ 0xDFFF < c.toNat ∧ c.toNat < 0x110000 := c.valid
  have hfirst : ∀ code, code < 0x100 → (UInt8.ofNat code).toNat = code := fun code hcode => by
    rw [UInt8.toNat_ofNat']
    omega
  have hrest : ∀ bits, 0x80 ≤ (continuation bits).toNat ∧ (continuation bits).toNat < 0xC0 :=
    fun bits => by
      rw [toNat_continuation]
      omega
  unfold encodeChar
  dsimp only
  rw [if_neg (by omega)]
  split
  · refine ⟨_, _, rfl, ?_, ?_, by simp [hrest]⟩ <;> rw [hfirst] <;> omega
  split
  · refine ⟨_, _, rfl, ?_, ?_, by simp [hrest]⟩ <;> rw [hfirst] <;> omega
  · refine ⟨_, _, rfl, ?_, ?_, by simp [hrest]⟩ <;> rw [hfirst] <;> omega

/-! ## Texts -/

@[simp] theorem encode_nil : encode [] = [] := rfl

@[simp] theorem encode_cons (c : Char) (text : Text) :
    encode (c :: text) = encodeChar c ++ encode text :=
  List.flatMap_cons

@[simp] theorem encode_append (a b : Text) : encode (a ++ b) = encode a ++ encode b :=
  List.flatMap_append

/-- The decoder finds the characters of an encoded text and nothing else. -/
theorem items_encode (text : Text) : items (encode text) = text.map .char := by
  induction text with
  | nil => rfl
  | cons c text ih =>
    rw [encode_cons, items, itemsFrom_encodeChar]
    exact congrArg _ ih

/-- **Decoding gives back what was encoded**, with or without an eye to faults. -/
theorem decodeLossy_encode (text : Text) : decodeLossy (encode text) = text := by
  rw [decodeLossy, items_encode, List.map_map]
  exact List.map_id text

end Rowwise.Utf8
