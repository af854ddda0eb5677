import Rowwise.Pattern.Function
import Rowwise.Proofs.Machine.Cursor
import Rowwise.Proofs.Pattern.Templates
import Rowwise.Proofs.Text.Escapes

/-!
# Machine — Rewriting

The two loops that read a text and write what comes of it: braces are put around the numbers in a
template, and percent escapes are replaced by their bytes. Each keeps a byte position in what it
reads. The invariant is that this position is a cursor and that what has been written, followed by
what comes of the text ahead, is the outcome of the whole.
-/

namespace Rowwise.Machine

/-- A loop that has read up to a position, and what it has written. -/
structure Writer (α : Type) where
  pos : Nat
  out : List α

/-! ## Braces -/

/-- One round of putting braces around numbers. -/
def braceRound (template : Text) (state : Writer Char) : Checked (Round (Writer Char) Text) := do
  let bytes := Utf8.encode template
  if state.pos < bytes.length then
    let byte ← item bytes state.pos
    if byte = ascii '$' then
      let next ← add state.pos 1
      if bytes[next]? = some (ascii '$') then
        .ok (.again ⟨← add state.pos 2, state.out ++ ['$', '$']⟩)
      else
        let behind ← extract bytes next bytes.length
        let count := (behind.takeWhile (byteIs Char.isDigit)).length
        if count = 0 then .ok (.again ⟨next, state.out ++ ['$']⟩)
        else
          let stop ← add next count
          let digits ← cut template next stop
          .ok (.again ⟨stop, state.out ++ ['$', '\x7b'] ++ digits ++ ['\x7d']⟩)
    else
      let c := (← ahead template state.pos).headD '\x00'
      .ok (.again ⟨← add state.pos (max c.utf8Size 1), state.out ++ [c]⟩)
  else .ok (.done state.out)

/-- A template with braces around its numbers. Room for four more bytes is asked for. -/
def braceNumbers (template : Text) : Checked Text := do
  let length := (Utf8.encode template).length
  let _room ← add length 4
  rounds (braceRound template) (length + 1) ⟨0, []⟩

section Braces

variable {template rest : Text} {pos : Nat} {out : Text}

/-- A dollar sign without another one after it. -/
theorem braceRound_dollar (h : Cursor template pos ('$' :: rest))
    (hlength : (Utf8.encode template).length < lengthBound) (hrest : ∀ more, rest ≠ '$' :: more) :
    braceRound template ⟨pos, out⟩ =
      if rest.takeWhile Char.isDigit = [] then .ok (.again ⟨pos + 1, out ++ ['$']⟩)
      else .ok (.again ⟨pos + 1 + Text.utf8Size (rest.takeWhile Char.isDigit),
        out ++ ['$', '\x7b'] ++ rest.takeWhile Char.isDigit ++ ['\x7d']⟩) := by
  have hlt := h.lt_length
  have hnext : Cursor template (pos + 1) rest := h.next_ascii (by decide)
  have hdigits : Cursor template (pos + 1)
      (rest.takeWhile Char.isDigit ++ rest.dropWhile Char.isDigit) := by
    rwa [List.takeWhile_append_dropWhile]
  have hsize := hdigits.add_utf8Size
  rw [Text.utf8Size_append] at hsize
  have hdouble : (Utf8.encode template)[pos + 1]? ≠ some (ascii '$') := by
    rw [hnext.getElem?_eq]
    intro hhead
    obtain ⟨more, hmore⟩ := head?_encode_eq_some (by decide) hhead
    exact hrest more hmore
  have hone : add pos 1 = .ok (pos + 1) := add_one (by omega)
  have hstop : add (pos + 1) (Text.utf8Size (rest.takeWhile Char.isDigit))
      = .ok (pos + 1 + Text.utf8Size (rest.takeWhile Char.isDigit)) := add_of_lt (by omega)
  have hcount : ((Utf8.encode rest).takeWhile (byteIs Char.isDigit)).length
      = Text.utf8Size (rest.takeWhile Char.isDigit) := by
    rw [takeWhile_encode fun _ => toNat_lt_of_isDigit, length_encode]
  simp only [braceRound, hlt, if_true, h.item_ascii (c := '$') (by decide), ok_bind, hone, hdouble,
    if_false, hnext.extract_rest, hcount, utf8Size_eq_zero_iff, hstop, hdigits.cut_eq]

/-- **The loop** writes what putting braces makes of the text ahead. -/
theorem ends_brace (h : Cursor template pos rest)
    (hlength : (Utf8.encode template).length < lengthBound) :
    Ends (braceRound template) (rest.length + 1) ⟨pos, out⟩ (out ++ Template.braceNumbers rest) := by
  -- one round for each step of the recursion; the cursor is what a round needs of the ones before
  fun_induction Template.braceNumbers rest generalizing pos out with
  | case1 =>
    refine Ends.done ?_
    rw [braceRound, if_neg h.not_lt_length, List.append_nil]
  | case2 rest ih =>
    have hlt := h.lt_length
    have hsecond : Cursor template (pos + 1) ('$' :: rest) := h.next_ascii (by decide)
    have hdouble : (Utf8.encode template)[pos + 1]? = some (ascii '$') := hsecond.getElem?_eq
    have hone : add pos 1 = .ok (pos + 1) := add_one (by omega)
    have htwo : add pos 2 = .ok (pos + 2) := add_of_lt (by omega)
    have hround : braceRound template ⟨pos, out⟩ = .ok (.again ⟨pos + 2, out ++ ['$', '$']⟩) := by
      simp only [braceRound, hlt, if_true, h.item_ascii (c := '$') (by decide), ok_bind, hone,
        hdouble, htwo]
    have hends := Ends.again hround (ih (hsecond.next_ascii (by decide)))
    rw [List.append_assoc] at hends
    exact hends.mono (by simp)
  | case3 rest hrest _ hdigits ih =>
    have hround : braceRound template ⟨pos, out⟩ = .ok (.again ⟨pos + 1, out ++ ['$']⟩) := by
      rw [braceRound_dollar h hlength hrest, if_pos hdigits]
    have hends := Ends.again hround (ih (h.next_ascii (by decide)))
    rwa [List.append_assoc] at hends
  | case4 rest hrest hle hdigits ih =>
    have hround : braceRound template ⟨pos, out⟩
        = .ok (.again ⟨pos + 1 + Text.utf8Size (rest.takeWhile Char.isDigit),
          out ++ ['$', '\x7b'] ++ rest.takeWhile Char.isDigit ++ ['\x7d']⟩) := by
      rw [braceRound_dollar h hlength hrest, if_neg hdigits]
    have hnext : Cursor template (pos + 1)
        (rest.takeWhile Char.isDigit ++ rest.dropWhile Char.isDigit) := by
      rw [List.takeWhile_append_dropWhile]
      exact h.next_ascii (by decide)
    have hends := Ends.again hround (ih hnext.append)
    simp only [List.append_assoc, List.cons_append, List.nil_append] at hends
    simp only [List.cons_append]
    exact hends.mono (by simp only [List.length_cons]; omega)
  | case5 c rest hrest hc ih =>
    have hlt := h.lt_length
    have hsize := h.next.add_utf8Size
    obtain ⟨byte, hbyte, hitem⟩ := h.exists_item c.utf8Size_pos
    rw [Nat.add_zero] at hitem
    have hdollar : byte ≠ ascii '$' := ne_ascii_of_mem hc (by decide) hbyte
    have hmax : max c.utf8Size 1 = c.utf8Size := Nat.max_eq_left c.utf8Size_pos
    have hadd : add pos c.utf8Size = .ok (pos + c.utf8Size) := add_of_lt (by omega)
    have hround : braceRound template ⟨pos, out⟩
        = .ok (.again ⟨pos + c.utf8Size, out ++ [c]⟩) := by
      simp only [braceRound, hlt, if_true, hitem, ok_bind, hdollar, if_false, h.ahead_eq,
        List.headD_cons, hmax, hadd]
    have hends := Ends.again hround (ih h.next)
    rwa [List.append_assoc] at hends

/-- Braces are put as the template has them. -/
theorem braceNumbers_eq (h : Text.utf8Size template < lengthBound) :
    braceNumbers template = .ok (Template.braceNumbers template) := by
  have hlength := length_le_utf8Size template
  rw [← length_encode] at h hlength
  have hroom : add (Utf8.encode template).length 4 = .ok ((Utf8.encode template).length + 4) := by
    refine add_of_lt ?_
    rw [lengthBound] at *
    omega
  rw [braceNumbers, hroom, ok_bind, ends_brace (Cursor.start template) h _ (by omega)]
  rfl

end Braces

/-! ## Escapes -/

/-- The byte that a text of two hexadecimal digits writes. -/
def hexByte? : Text → Option UInt8
  | [high, low] => Percent.hexByte? high low
  | _ => none

/-- One round of replacing escapes by their bytes, those of the `kept` characters apart. -/
def escapeRound (kept : List Char) (text : Text) (state : Writer UInt8) :
    Checked (Round (Writer UInt8) (Except Percent.Fault Bytes)) := do
  let bytes := Utf8.encode text
  if state.pos < bytes.length then
    let byte ← item bytes state.pos
    if byte = ascii '%' then
      let start ← add state.pos 1
      let stop ← add state.pos 3
      match (cut? text start stop).bind hexByte? with
      | some byte =>
        if Char.ofNat byte.toNat ∈ kept then
          let own ← extract bytes state.pos stop
          .ok (.again ⟨stop, state.out ++ own⟩)
        else .ok (.again ⟨stop, state.out ++ [byte]⟩)
      | none => do
        let rest ← ahead text state.pos
        .ok (.done (.error (.escape (rest.take 3))))
    else .ok (.again ⟨← add state.pos 1, state.out ++ [byte]⟩)
  else .ok (.done (.ok state.out))

/-- The bytes of an escaped text. -/
def escapedBytes (kept : List Char) (text : Text) : Checked (Except Percent.Fault Bytes) :=
  rounds (escapeRound kept text) ((Utf8.encode text).length + 1) ⟨0, []⟩

theorem toNat_lt_of_value? {c : Char} {n : Nat} (h : Hex.value? c = some n) : c.toNat < 0x80 := by
  have hdigits : ∀ n < 16, (Hex.lowerDigit n).toNat < 0x80 ∧ (Hex.upperDigit n).toNat < 0x80 := by
    decide
  obtain ⟨hn, rfl | rfl⟩ := Hex.isDigit_of_value? h
  · exact (hdigits n hn).1
  · exact (hdigits n hn).2

/-- Hexadecimal digits are ASCII. -/
theorem hexByte?_eq_none {high low : Char} (h : ¬ (high.toNat < 0x80 ∧ low.toNat < 0x80)) :
    Percent.hexByte? high low = none := by
  unfold Percent.hexByte?
  split
  · rename_i hhigh hlow
    exact absurd ⟨toNat_lt_of_value? hhigh, toNat_lt_of_value? hlow⟩ h
  · rfl

/-- **Two bytes are looked at** where the next two characters are meant: if these are digits, the
second byte ends a character. -/
theorem takeBytes?_bind_hexByte? (rest : Text) :
    (takeBytes? 2 rest).bind hexByte? = match rest with
      | high :: low :: _ => Percent.hexByte? high low
      | _ => none := by
  cases rest with
  | nil => rfl
  | cons high rest =>
    by_cases hhigh : high.toNat < 0x80
    · cases rest with
      | nil => simp [takeBytes?, utf8Size_of_ascii hhigh]
      | cons low rest =>
        by_cases hlow : low.toNat < 0x80
        · simp [takeBytes?, utf8Size_of_ascii hhigh, utf8Size_of_ascii hlow, hexByte?]
        · have hwide : ¬ low.utf8Size ≤ 1 := Nat.not_le.mpr (two_le_utf8Size hlow)
          simp [takeBytes?, utf8Size_of_ascii hhigh, hwide, hexByte?_eq_none fun h => hlow h.2]
    · have hwide := two_le_utf8Size hhigh
      have hnone : (takeBytes? 2 (high :: rest)).bind hexByte? = none := by
        rw [takeBytes?]
        split
        · have hone : 1 + 1 - high.utf8Size = 0 := by omega
          simp [hone, takeBytes?, hexByte?]
        · rfl
      rw [hnone]
      cases rest with
      | nil => rfl
      | cons low rest => exact (hexByte?_eq_none fun h => hhigh h.1).symm

section Escapes

variable {kept : List Char} {text rest : Text} {pos : Nat} {out : Bytes}

/-- At a percent sign a round reads two more bytes: an escape, or the round fails. -/
theorem escapeRound_percent (h : Cursor text pos ('%' :: rest))
    (hlength : (Utf8.encode text).length < lengthBound) :
    escapeRound kept text ⟨pos, out⟩ =
      match (takeBytes? 2 rest).bind hexByte? with
      | some byte =>
        if Char.ofNat byte.toNat ∈ kept then do
          let own ← extract (Utf8.encode text) pos (pos + 3)
          .ok (.again ⟨pos + 3, out ++ own⟩)
        else .ok (.again ⟨pos + 3, out ++ [byte]⟩)
      | none => .ok (.done (.error (.escape (('%' :: rest).take 3)))) := by
  have hlt := h.lt_length
  have hnext : Cursor text (pos + 1) rest := h.next_ascii (by decide)
  have hone : add pos 1 = .ok (pos + 1) := add_one (by omega)
  have hthree : add pos 3 = .ok (pos + 3) := add_of_lt (by rw [lengthBound] at *; omega)
  have hcut : cut? text (pos + 1) (pos + 3) = takeBytes? 2 rest := by
    have hcount : pos + 3 - (pos + 1) = 2 := by omega
    rw [cut?, if_pos (by omega), hnext.dropBytes?_eq, hcount, Option.bind_some]
  simp only [escapeRound, hlt, if_true, h.item_ascii (c := '%') (by decide), ok_bind, hone, hthree,
    hcut, h.ahead_eq]

/-- The bytes of a character other than a percent sign are written as they are. -/
theorem escapeRound_plain {c : Char} (h : Cursor text pos (c :: rest)) (hc : c ≠ '%')
    (hlength : (Utf8.encode text).length < lengthBound) :
    ∀ i < c.utf8Size, escapeRound kept text ⟨pos + i, out ++ (Utf8.encodeChar c).take i⟩
      = .ok (.again ⟨pos + (i + 1), out ++ (Utf8.encodeChar c).take (i + 1)⟩) := by
  intro i hi
  have hsize := h.add_utf8Size
  rw [Text.utf8Size_cons] at hsize
  rw [← length_encodeChar] at hi
  have hbyte := ne_ascii_of_mem hc (by decide) (List.getElem_mem hi)
  have hadd : add (pos + i) 1 = .ok (pos + (i + 1)) := add_one (by
    rw [length_encodeChar] at hi
    omega)
  have hlt : pos + i < (Utf8.encode text).length := by
    rw [length_encodeChar] at hi
    omega
  simp only [escapeRound, hlt, if_true, h.item_add hi, ok_bind, hbyte, if_false, hadd,
    List.append_assoc, List.take_append_getElem]

theorem map_append_map_append (a b : Bytes) (result : Except Percent.Fault Bytes) :
    (result.map (b ++ ·)).map (a ++ ·) = result.map (a ++ b ++ ·) := by
  cases result with
  | error fault => rfl
  | ok bytes => exact congrArg Except.ok (List.append_assoc a b bytes).symm

/-- **The loop** writes the bytes of the escaped text ahead. -/
theorem ends_escape (h : Cursor text pos rest)
    (hlength : (Utf8.encode text).length < lengthBound) :
    Ends (escapeRound kept text) (Text.utf8Size rest + 1) ⟨pos, out⟩
      ((Percent.bytes kept rest).map (out ++ ·)) := by
  -- an escape takes one round, any other character a round for each of its bytes
  fun_induction Percent.bytes kept rest generalizing pos out with
  | case1 =>
    refine Ends.done ?_
    rw [escapeRound, if_neg h.not_lt_length, Except.map, List.append_nil]
  | case2 high low rest hnone =>
    refine Ends.mono (Ends.done ?_) (Nat.le_add_left 1 _)
    rw [escapeRound_percent h hlength, takeBytes?_bind_hexByte?]
    simp only [hnone]
    rfl
  | case3 high low rest byte hsome own =>
    rename_i ih
    have hascii : high.toNat < 0x80 ∧ low.toNat < 0x80 :=
      Classical.byContradiction fun hwide => by cases hsome.symm.trans (hexByte?_eq_none hwide)
    have hthree : Text.utf8Size ['%', high, low] = 3 := by
      rw [Text.utf8Size_cons, Text.utf8Size_cons, Text.utf8Size_cons, utf8Size_of_ascii hascii.1,
        utf8Size_of_ascii hascii.2]
      rfl
    have hpart : Cursor text pos (['%', high, low] ++ rest) := h
    have hextract := hpart.extract_eq
    have hnext := hpart.append
    rw [hthree] at hextract hnext
    have hround : escapeRound kept text ⟨pos, out⟩ = .ok (.again ⟨pos + 3, out ++ own⟩) := by
      rw [escapeRound_percent h hlength, takeBytes?_bind_hexByte?]
      simp only [hsome, hextract, ok_bind, own]
      split <;> rfl
    have hends := Ends.again hround (ih hnext)
    rw [← map_append_map_append] at hends
    refine hends.mono ?_
    simp only [Text.utf8Size_cons, Text.utf8Size_nil] at *
    omega
  | case4 rest hshort =>
    refine Ends.mono (Ends.done ?_) (Nat.le_add_left 1 _)
    rw [escapeRound_percent h hlength, takeBytes?_bind_hexByte?]
    split
    · rename_i hbyte
      split at hbyte
      · exact absurd rfl (hshort _ _ _ rfl)
      · cases hbyte
    · rfl
  | case5 c rest _ hc ih =>
    have hwhole : (Utf8.encodeChar c).take c.utf8Size = Utf8.encodeChar c := by
      rw [← length_encodeChar, List.take_length]
    have hlast : Ends (escapeRound kept text) (Text.utf8Size rest + 1)
        ⟨pos + c.utf8Size, out ++ (Utf8.encodeChar c).take c.utf8Size⟩
        ((Percent.bytes kept rest).map (out ++ (Utf8.encodeChar c).take c.utf8Size ++ ·)) :=
      ih h.next
    have hends := Ends.run
      (fun i => (⟨pos + i, out ++ (Utf8.encodeChar c).take i⟩ : Writer UInt8))
      (escapeRound_plain h hc hlength) hlast
    rw [Nat.add_zero, List.take_zero, List.append_nil, ← Nat.add_assoc, hwhole,
      ← map_append_map_append] at hends
    rwa [Text.utf8Size_cons]

/-- Escapes are replaced as the codec has them. -/
theorem escapedBytes_eq (h : Text.utf8Size text < lengthBound) :
    escapedBytes kept text = .ok (Percent.bytes kept text) := by
  rw [← length_encode] at h
  have hfuel : Text.utf8Size text + 1 ≤ (Utf8.encode text).length + 1 :=
    Nat.le_of_eq (congrArg (· + 1) (length_encode text).symm)
  rw [escapedBytes, ends_escape (Cursor.start text) h _ hfuel]
  cases Percent.bytes kept text <;> rfl

end Escapes

end Rowwise.Machine
