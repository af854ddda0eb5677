import Rowwise.Charset.Utf16

/-!
# Text — Units

What is encoded in UTF-16 is decoded again, in either byte order (`decode_encode`). The bytes are
put together to the units they were made of (`units_unitBytes`), and the units of one character,
whatever comes after them, are found to be that character (`items_encodeChar`): a character beyond
U+FFFF is a pair of surrogates, and no other character is a surrogate.
-/

namespace Rowwise.Utf16

/-! ## Units -/

/-- The units of a character fit into two bytes. -/
theorem lt_of_mem_encodeChar {c : Char} {unit : Nat} (h : unit ∈ encodeChar c) :
    unit < 0x10000 := by
  have hvalid : c.toNat < 0xD800 ∨ 0xDFFF < c.toNat ∧ c.toNat < 0x110000 := c.valid
  unfold encodeChar at h
  dsimp only at h
  split at h
  · rw [List.mem_singleton.mp h]
    assumption
  · simp only [List.mem_cons, List.not_mem_nil, or_false] at h
    omega

/-- **The units are put together again** from their bytes, the high one and the low one. -/
theorem units_unitBytes (order : ByteOrder) {encoded : List Nat}
    (h : ∀ unit ∈ encoded, unit < 0x10000) :
    units order (encoded.flatMap (unitBytes order)) = encoded.map .unit := by
  induction encoded with
  | nil => rfl
  | cons unit encoded ih =>
    obtain ⟨hunit, hencoded⟩ := List.forall_mem_cons.mp h
    have hhigh : (UInt8.ofNat (unit / 0x100)).toNat = unit / 0x100 := by
      rw [UInt8.toNat_ofNat']
      omega
    have hlow : (UInt8.ofNat (unit % 0x100)).toNat = unit % 0x100 := by
      rw [UInt8.toNat_ofNat']
      omega
    have hvalue : unit / 0x100 * 0x100 + unit % 0x100 = unit := by omega
    rw [List.flatMap_cons, List.map_cons, ← ih hencoded]
    cases order <;> simp only [unitBytes, List.cons_append, List.nil_append, units, hhigh, hlow,
      hvalue]

/-! ## Characters -/

/-- **The units of a character**, with any units after them, are found to be that character. -/
theorem items_encodeChar (c : Char) (rest : List Unit16) :
    items none ((encodeChar c).map .unit ++ rest) = some c :: items none rest := by
  have hvalid : c.toNat < 0xD800 ∨ 0xDFFF < c.toNat ∧ c.toNat < 0x110000 := c.valid
  unfold encodeChar
  dsimp only
  split
  · -- one unit, which is no surrogate
    have hleading : isLeading c.toNat = false := by
      simp only [isLeading, Bool.and_eq_false_iff, decide_eq_false_iff_not]
      omega
    have htrailing : isTrailing c.toNat = false := by
      simp only [isTrailing, Bool.and_eq_false_iff, decide_eq_false_iff_not]
      omega
    simp [items, hleading, htrailing]
  · -- a pair of surrogates
    have hleading : isLeading (0xD800 + (c.toNat - 0x10000) / 0x400) = true := by
      simp only [isLeading, Bool.and_eq_true, decide_eq_true_eq]
      omega
    have htrailing : isTrailing (0xDC00 + (c.toNat - 0x10000) % 0x400) = true := by
      simp only [isTrailing, Bool.and_eq_true, decide_eq_true_eq]
      omega
    have hcode : 0x10000 + (0xD800 + (c.toNat - 0x10000) / 0x400 - 0xD800) * 0x400
        + (0xDC00 + (c.toNat - 0x10000) % 0x400 - 0xDC00) = c.toNat := by
      omega
    simp only [List.map_cons, List.map_nil, List.cons_append, List.nil_append, items, hleading,
      htrailing, if_true, hcode, Char.ofNat_toNat]

/-! ## Texts -/

/-- The units of a text are found to be its characters. -/
theorem items_flatMap_encodeChar (text : Text) :
    items none ((text.flatMap encodeChar).map .unit) = text.map some := by
  induction text with
  | nil => rfl
  | cons c text ih =>
    rw [List.flatMap_cons, List.map_append, items_encodeChar, ih, List.map_cons]

/-- **Decoding gives back what was encoded**, without a fault. -/
theorem decode_encode (order : ByteOrder) (text : Text) :
    decode order (encode order text) = text.map some := by
  have hfits : ∀ unit ∈ text.flatMap encodeChar, unit < 0x10000 := by
    intro unit hunit
    obtain ⟨c, -, hc⟩ := List.mem_flatMap.mp hunit
    exact lt_of_mem_encodeChar hc
  rw [decode, encode, units_unitBytes order hfits, items_flatMap_encodeChar]

/-- Only the character of code zero begins with two bytes that are zero. -/
theorem not_zeros_prefix_encode {text : Text} (h : text.head? ≠ some '\x00') (order : ByteOrder) :
    ¬ [0, 0] <+: encode order text := by
  rintro ⟨rest, hrest⟩
  -- the two zeros are a unit, and that unit is a character
  have hunits : decode order ([0, 0] ++ rest) = some '\x00' :: decode order rest := by
    cases order <;> exact items_encodeChar '\x00' _
  rw [hrest, decode_encode] at hunits
  cases text with
  | nil => cases hunits
  | cons c text =>
    obtain ⟨hc, -⟩ := List.cons.inj hunits
    exact h hc

end Rowwise.Utf16
