import Rowwise.Proofs.Text.Encoding

/-!
# Text — Validity

Bytes are valid if they are the bytes of a text. The decoder that refuses faults accepts these bytes
and no others, and gives back their text (`decode_eq_ok_iff`): where it finds a character, it has
read the bytes of that character (`exists_of_itemsFrom_ready`).

An ASCII byte is a character by itself wherever it stands. So bytes are valid if and only if what
comes before such a byte and what comes after it are (`valid_append_ascii`).
-/

namespace Rowwise.Utf8

/-! ## The bytes of a code -/

theorem toNat_ofNat_of_valid {code : Nat}
    (h : code < 0xD800 ∨ 0xDFFF < code ∧ code < 0x110000) : (Char.ofNat code).toNat = code := by
  rw [Char.ofNat, dif_pos h]
  rfl

/-- A byte that continues a character holds the low six bits. -/
theorem continuation_add (above bits : Nat) :
    continuation (above * 0x40 + bits) = continuation bits := by
  have hbits : (above * 0x40 + bits) % 0x40 = bits % 0x40 := by omega
  rw [continuation, continuation, hbits]

section Codes

variable {top first second third : Nat}

theorem encodeChar_two (htop : 2 ≤ top) (htop' : top < 0x20) (hfirst : first < 0x40) :
    encodeChar (Char.ofNat (top * 0x40 + first)) =
      [UInt8.ofNat (0xC0 + top), continuation first] := by
  have hcode : (Char.ofNat (top * 0x40 + first)).toNat = top * 0x40 + first :=
    toNat_ofNat_of_valid (by omega)
  have hquotient : (top * 0x40 + first) / 0x40 = top := by omega
  simp only [encodeChar, hcode]
  rw [if_neg (by omega), if_pos (by omega), continuation_add, hquotient]

theorem encodeChar_three (hlow : top = 0 → 0x20 ≤ first) (hhigh : top = 0xD → first < 0x20)
    (htop : top < 0x10) (hfirst : first < 0x40) (hsecond : second < 0x40) :
    encodeChar (Char.ofNat ((top * 0x40 + first) * 0x40 + second)) =
      [UInt8.ofNat (0xE0 + top), continuation first, continuation second] := by
  generalize hvalue : (top * 0x40 + first) * 0x40 + second = code
  have hcode : (Char.ofNat code).toNat = code := toNat_ofNat_of_valid (by omega)
  have htopBits : code / 0x1000 = top := by omega
  have hfirstBits : code / 0x40 = top * 0x40 + first := by omega
  simp only [encodeChar, hcode]
  rw [if_neg (by omega), if_neg (by omega), if_pos (by omega), htopBits, hfirstBits, ← hvalue,
    continuation_add, continuation_add]

theorem encodeChar_four (hlow : top = 0 → 0x10 ≤ first) (hhigh : top = 4 → first < 0x10)
    (htop : top < 5) (hfirst : first < 0x40) (hsecond : second < 0x40) (hthird : third < 0x40) :
    encodeChar (Char.ofNat (((top * 0x40 + first) * 0x40 + second) * 0x40 + third)) =
      [UInt8.ofNat (0xF0 + top), continuation first, continuation second,
        continuation third] := by
  generalize hvalue : ((top * 0x40 + first) * 0x40 + second) * 0x40 + third = code
  have hcode : (Char.ofNat code).toNat = code := toNat_ofNat_of_valid (by omega)
  have htopBits : code / 0x40000 = top := by omega
  have hfirstBits : code / 0x1000 = top * 0x40 + first := by omega
  have hsecondBits : code / 0x40 = (top * 0x40 + first) * 0x40 + second := by omega
  simp only [encodeChar, hcode]
  rw [if_neg (by omega), if_neg (by omega), if_neg (by omega), htopBits, hfirstBits, hsecondBits,
    ← hvalue, continuation_add, continuation_add, continuation_add]

end Codes

/-! ## What the decoder has read -/

/-- No character begins with a continuation byte, `C0`, `C1`, or a byte from `F5` on. -/
theorem lead_invalid {byte : UInt8}
    (h : 0x80 ≤ byte.toNat ∧ byte.toNat < 0xC2 ∨ 0xF5 ≤ byte.toNat) :
    lead byte = ([.invalid 1], .ready) := by
  unfold lead
  dsimp only
  rcases h with ⟨hleast, hmost⟩ | hleast
  · rw [if_neg (by omega), if_pos hmost]
  · repeat rw [if_neg (by omega)]

theorem invalid_cons_ne (length : Nat) (found : List Item) (text : Text) :
    .invalid length :: found ≠ text.map Item.char := by
  cases text <;> simp

section Inside

variable {read needed value : Nat} {low high : UInt8} {bytes : Bytes} {text : Text}

/-- Inside a character, a byte in the range follows. -/
theorem exists_continuation (hlow : 0x80 ≤ low.toNat) (hhigh : high.toNat ≤ 0xBF)
    (h : itemsFrom (.inside read needed value low high) bytes = text.map .char) :
    ∃ bits rest, bytes = continuation bits :: rest ∧ bits < 0x40 ∧
      low.toNat ≤ 0x80 + bits ∧ 0x80 + bits ≤ high.toNat := by
  cases bytes with
  | nil => cases text <;> simp [itemsFrom] at h
  | cons byte rest =>
    by_cases hrange : low ≤ byte ∧ byte ≤ high
    · obtain ⟨hleast, hmost⟩ := hrange
      rw [UInt8.le_iff_toNat_le] at hleast hmost
      have hbyte : byte = continuation (byte.toNat - 0x80) := by
        rw [← UInt8.toNat_inj, toNat_continuation]
        omega
      exact ⟨byte.toNat - 0x80, rest, by rw [← hbyte], by omega, by omega, by omega⟩
    · rw [itemsFrom_cons, step, if_neg hrange] at h
      exact absurd h (invalid_cons_ne read _ text)

/-- Inside a character that lacks two bytes or more, the next byte adds its bits to it. -/
theorem exists_of_itemsFrom_inner (hlow : 0x80 ≤ low.toNat) (hhigh : high.toNat ≤ 0xBF)
    (h : itemsFrom (.inside read (needed + 2) value low high) bytes = text.map .char) :
    ∃ bits rest, bytes = continuation bits :: rest ∧ bits < 0x40 ∧
      low.toNat ≤ 0x80 + bits ∧ 0x80 + bits ≤ high.toNat ∧
      itemsFrom (.inside (read + 1) (needed + 1) (value * 0x40 + bits) 0x80 0xBF) rest =
        text.map .char := by
  obtain ⟨bits, rest, rfl, hbits, hleast, hmost⟩ := exists_continuation hlow hhigh h
  have hmod : bits % 0x40 = bits := Nat.mod_eq_of_lt hbits
  rw [itemsFrom_inner (by rwa [hmod]) (by rwa [hmod]), hmod] at h
  exact ⟨bits, rest, rfl, hbits, hleast, hmost, h⟩

/-- Inside a character that lacks one byte, the next byte completes it. -/
theorem exists_of_itemsFrom_last (hlow : 0x80 ≤ low.toNat) (hhigh : high.toNat ≤ 0xBF)
    (h : itemsFrom (.inside read 1 value low high) bytes = text.map .char) :
    ∃ bits rest more, bytes = continuation bits :: rest ∧ bits < 0x40 ∧
      low.toNat ≤ 0x80 + bits ∧ 0x80 + bits ≤ high.toNat ∧
      text = Char.ofNat (value * 0x40 + bits) :: more ∧ itemsFrom .ready rest = more.map .char := by
  obtain ⟨bits, rest, rfl, hbits, hleast, hmost⟩ := exists_continuation hlow hhigh h
  have hmod : bits % 0x40 = bits := Nat.mod_eq_of_lt hbits
  have hvalue : (continuation bits).toNat - 0x80 = bits := by
    rw [toNat_continuation]
    omega
  have hrange : low ≤ continuation bits ∧ continuation bits ≤ high :=
    continuation_within (by rwa [hmod]) (by rwa [hmod])
  rw [itemsFrom_cons, step, if_pos hrange, if_pos (Nat.le_refl 1), hvalue] at h
  cases text with
  | nil => cases h
  | cons c more =>
    obtain ⟨hc, hmore⟩ := List.cons.inj h
    rw [← Item.char.inj hc]
    exact ⟨bits, rest, more, rfl, hbits, hleast, hmost, rfl, hmore⟩

end Inside

/-- **The decoder has read a character**: where it finds one and no fault after it, the bytes are
those of the character and of the text that it finds after it. -/
theorem exists_of_itemsFrom_ready {byte : UInt8} {bytes : Bytes} {text : Text}
    (h : itemsFrom .ready (byte :: bytes) = text.map .char) :
    ∃ c rest more, text = c :: more ∧ byte :: bytes = encodeChar c ++ rest ∧
      itemsFrom .ready rest = more.map .char := by
  have hbyte := byte.toNat_lt
  have hofNat : UInt8.ofNat byte.toNat = byte := UInt8.ofNat_toNat
  -- by the number of bytes that the first one announces
  by_cases hone : byte.toNat < 0x80
  · rw [itemsFrom_cons, step, ← hofNat, lead_ascii _ hone] at h
    cases text with
    | nil => cases h
    | cons c more =>
      obtain ⟨hc, hmore⟩ := List.cons.inj h
      refine ⟨c, bytes, more, rfl, ?_, hmore⟩
      have hcode : c.toNat = byte.toNat := by
        rw [← Item.char.inj hc, toNat_ofNat_of_valid (by omega)]
      rw [encodeChar_of_ascii (by omega), hcode, hofNat, List.singleton_append]
  by_cases htwo : 0xC2 ≤ byte.toNat ∧ byte.toNat < 0xE0
  · have hlead := lead_two (byte.toNat - 0xC0) (by omega) (by omega)
    have hfirst : 0xC0 + (byte.toNat - 0xC0) = byte.toNat := by omega
    rw [hfirst, hofNat] at hlead
    rw [itemsFrom_lead hlead] at h
    obtain ⟨first, rest, more, rfl, hbits, -, -, rfl, hmore⟩ :=
      exists_of_itemsFrom_last (by decide) (by decide) h
    refine ⟨_, rest, more, rfl, ?_, hmore⟩
    rw [encodeChar_two (by omega) (by omega) hbits, hfirst, hofNat]
    rfl
  by_cases hthree : 0xE0 ≤ byte.toNat ∧ byte.toNat < 0xF0
  · have hlead := lead_three (byte.toNat - 0xE0) (by omega)
    have hfirst : 0xE0 + (byte.toNat - 0xE0) = byte.toNat := by omega
    rw [hfirst, hofNat] at hlead
    rw [itemsFrom_lead hlead] at h
    obtain ⟨first, rest, rfl, hbits, hleast, hmost, h⟩ :=
      exists_of_itemsFrom_inner (by split <;> decide) (by split <;> decide) h
    obtain ⟨second, rest, more, rfl, hbits', -, -, rfl, hmore⟩ :=
      exists_of_itemsFrom_last (by decide) (by decide) h
    refine ⟨_, rest, more, rfl, ?_, hmore⟩
    have hlow : byte.toNat - 0xE0 = 0 → 0x20 ≤ first := fun hzero => by
      rw [if_pos hzero] at hleast
      simp at hleast
      omega
    have hhigh : byte.toNat - 0xE0 = 0xD → first < 0x20 := fun htop => by
      rw [if_pos htop] at hmost
      simp at hmost
      omega
    rw [encodeChar_three hlow hhigh (by omega) hbits hbits', hfirst, hofNat]
    rfl
  by_cases hfour : 0xF0 ≤ byte.toNat ∧ byte.toNat < 0xF5
  · have hlead := lead_four (byte.toNat - 0xF0) (by omega)
    have hfirst : 0xF0 + (byte.toNat - 0xF0) = byte.toNat := by omega
    rw [hfirst, hofNat] at hlead
    rw [itemsFrom_lead hlead] at h
    obtain ⟨first, rest, rfl, hbits, hleast, hmost, h⟩ :=
      exists_of_itemsFrom_inner (by split <;> decide) (by split <;> decide) h
    obtain ⟨second, rest, rfl, hbits', -, -, h⟩ :=
      exists_of_itemsFrom_inner (by decide) (by decide) h
    obtain ⟨third, rest, more, rfl, hbits'', -, -, rfl, hmore⟩ :=
      exists_of_itemsFrom_last (by decide) (by decide) h
    refine ⟨_, rest, more, rfl, ?_, hmore⟩
    have hlow : byte.toNat - 0xF0 = 0 → 0x10 ≤ first := fun hzero => by
      rw [if_pos hzero] at hleast
      simp at hleast
      omega
    have hhigh : byte.toNat - 0xF0 = 4 → first < 0x10 := fun htop => by
      rw [if_pos htop] at hmost
      simp at hmost
      omega
    rw [encodeChar_four hlow hhigh (by omega) hbits hbits' hbits'', hfirst, hofNat]
    rfl
  · rw [itemsFrom_cons, step, lead_invalid (by omega)] at h
    exact absurd h (invalid_cons_ne 1 _ text)

/-- Only the bytes of a text are found to be that text. -/
theorem encode_of_items {bytes : Bytes} {text : Text} (h : items bytes = text.map .char) :
    encode text = bytes := by
  induction text generalizing bytes with
  | nil =>
    cases bytes with
    | nil => rfl
    | cons byte bytes =>
      obtain ⟨c, rest, more, hnil, -⟩ := exists_of_itemsFrom_ready h
      cases hnil
  | cons c text ih =>
    cases bytes with
    | nil => cases h
    | cons byte bytes =>
      obtain ⟨_, rest, _, hcons, hbytes, hmore⟩ := exists_of_itemsFrom_ready h
      obtain ⟨rfl, rfl⟩ := List.cons.inj hcons
      rw [encode_cons, hbytes, ih hmore]

/-! ## Decoding without faults -/

theorem textOf_eq_ok_iff {index : Nat} {found : List Item} {text : Text} :
    textOf index found = .ok text ↔ found = text.map .char := by
  induction found generalizing index text with
  | nil => cases text <;> simp [textOf]
  | cons item found ih =>
    cases item with
    | char c =>
      cases text with
      | nil => cases h : textOf (index + c.utf8Size) found <;> simp [textOf, h, Except.map]
      | cons d text =>
        have hmore : textOf (index + c.utf8Size) found = .ok text ↔ found = text.map .char := ih
        rw [List.map_cons, List.cons.injEq, Item.char.injEq, ← hmore]
        cases h : textOf (index + c.utf8Size) found <;> simp [textOf, h, Except.map]
    | invalid length => cases text <;> simp [textOf]
    | incomplete length => cases text <;> simp [textOf]

/-- **The decoder accepts the bytes of a text and no others.** -/
theorem decode_eq_ok_iff {bytes : Bytes} {text : Text} :
    decode bytes = .ok text ↔ encode text = bytes := by
  rw [decode, textOf_eq_ok_iff]
  constructor
  · exact encode_of_items
  · rintro rfl
    exact items_encode text

theorem decode_encode (text : Text) : decode (encode text) = .ok text :=
  decode_eq_ok_iff.mpr rfl

theorem encode_injective {a b : Text} (h : encode a = encode b) : a = b :=
  Except.ok.inj ((decode_encode a).symm.trans (h ▸ decode_encode b))

/-- Where the bytes of a text begin with those of another, the text does. -/
theorem exists_of_encode_append {text all : Text} {back : Bytes}
    (h : encode all = encode text ++ back) : ∃ rest, all = text ++ rest ∧ encode rest = back := by
  induction text generalizing all with
  | nil => exact ⟨all, rfl, h⟩
  | cons c text ih =>
    -- the decoder finds the first character of both
    have hitems := congrArg (itemsFrom .ready) h
    rw [encode_cons, List.append_assoc, itemsFrom_encodeChar] at hitems
    cases all with
    | nil => cases hitems
    | cons d all =>
      rw [encode_cons, itemsFrom_encodeChar, List.cons.injEq] at hitems
      obtain rfl : d = c := Item.char.inj hitems.1
      rw [encode_cons, encode_cons, List.append_assoc, List.append_cancel_left_eq] at h
      obtain ⟨rest, rfl, hrest⟩ := ih h
      exact ⟨rest, rfl, hrest⟩

/-! ## Valid bytes -/

/-- The bytes of a text. -/
def Valid (bytes : Bytes) : Prop :=
  ∃ text, encode text = bytes

theorem encodeChar_ofNat {byte : UInt8} (hbyte : byte.toNat < 0x80) :
    encodeChar (Char.ofNat byte.toNat) = [byte] := by
  have hcode : (Char.ofNat byte.toNat).toNat = byte.toNat := toNat_ofNat_of_valid (by omega)
  rw [encodeChar_of_ascii (by omega), hcode, UInt8.ofNat_toNat]

/-- An ASCII byte is all there is of its character. -/
theorem eq_ofNat_of_mem_encodeChar {c : Char} {byte : UInt8} (hbyte : byte.toNat < 0x80)
    (h : byte ∈ encodeChar c) : c = Char.ofNat byte.toNat := by
  by_cases hc : c.toNat < 0x80
  · rw [encodeChar_of_ascii hc, List.mem_singleton] at h
    have hcode : byte.toNat = c.toNat := by
      rw [h, UInt8.toNat_ofNat']
      omega
    rw [hcode, Char.ofNat_toNat]
  · obtain ⟨first, rest, hbytes, hfirst, -, hrest⟩ := exists_encodeChar_of_wide (Nat.not_lt.mp hc)
    rw [hbytes] at h
    rcases List.mem_cons.mp h with rfl | h
    · omega
    · have hwide := hrest byte h
      omega

/-- **A text is cut at an ASCII byte**, which is one of its characters. -/
theorem exists_of_encode_eq {text : Text} {front back : Bytes} {byte : UInt8}
    (hbyte : byte.toNat < 0x80) (h : encode text = front ++ byte :: back) :
    ∃ before after, text = before ++ Char.ofNat byte.toNat :: after ∧
      encode before = front ∧ encode after = back := by
  induction text generalizing front with
  | nil => simp at h
  | cons c text ih =>
    by_cases hmem : byte ∈ encodeChar c
    · obtain rfl := eq_ofNat_of_mem_encodeChar hbyte hmem
      rw [encode_cons, encodeChar_ofNat hbyte] at h
      cases front with
      | nil => exact ⟨[], text, rfl, rfl, (List.cons.inj h).2⟩
      | cons first front =>
        obtain ⟨rfl, htext⟩ := List.cons.inj h
        obtain ⟨before, after, rfl, rfl, rfl⟩ := ih htext
        refine ⟨_ :: before, after, rfl, ?_, rfl⟩
        rw [encode_cons, encodeChar_ofNat hbyte]
        rfl
    · -- the byte is one of a later character
      rw [encode_cons] at h
      rcases List.append_eq_append_iff.mp h with ⟨more, rfl, htext⟩ | ⟨more, hc, hback⟩
      · obtain ⟨before, after, rfl, rfl, rfl⟩ := ih htext
        exact ⟨c :: before, after, rfl, encode_cons c before, rfl⟩
      · cases more with
        | nil =>
          have htext : encode text = [] ++ byte :: back := hback.symm
          obtain ⟨before, after, rfl, hbefore, rfl⟩ := ih htext
          refine ⟨c :: before, after, rfl, ?_, rfl⟩
          rw [encode_cons, hbefore, hc, List.append_nil, List.append_nil]
        | cons first more =>
          have hfirst : byte = first := (List.cons.inj hback).1
          exact absurd (hc ▸ hfirst ▸ List.mem_append_right front List.mem_cons_self) hmem

/-- **Valid before and valid after**: an ASCII byte has no part in another character. -/
theorem valid_append_ascii {front back : Bytes} {byte : UInt8} (hbyte : byte.toNat < 0x80) :
    Valid (front ++ byte :: back) ↔ Valid front ∧ Valid back := by
  constructor
  · rintro ⟨text, htext⟩
    obtain ⟨before, after, -, hbefore, hafter⟩ := exists_of_encode_eq hbyte htext
    exact ⟨⟨before, hbefore⟩, ⟨after, hafter⟩⟩
  · rintro ⟨⟨before, rfl⟩, ⟨after, rfl⟩⟩
    refine ⟨before ++ Char.ofNat byte.toNat :: after, ?_⟩
    rw [encode_append, encode_cons, encodeChar_ofNat hbyte]
    rfl

theorem valid_encode_append {text : Text} {back : Bytes} :
    Valid (encode text ++ back) ↔ Valid back := by
  constructor
  · rintro ⟨all, hall⟩
    obtain ⟨rest, -, hrest⟩ := exists_of_encode_append hall
    exact ⟨rest, hrest⟩
  · rintro ⟨rest, rfl⟩
    exact ⟨text ++ rest, encode_append text rest⟩

end Rowwise.Utf8
