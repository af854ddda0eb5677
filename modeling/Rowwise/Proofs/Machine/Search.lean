import Rowwise.Pattern.Function
import Rowwise.Proofs.Machine.Cursor
import Rowwise.Proofs.Text.Validity

/-!
# Machine — Searching

A text is searched byte by byte, and the byte position that is found becomes a position among
characters: the text before it is cut off and its characters are counted. The cut is possible
because a text stands in another only where a character of that one begins: the byte that begins a
character is never one inside of a character (`not_prefix_inner`).
-/

namespace Rowwise.Machine

/-! ## Where a character begins -/

/-- Whether a byte stands inside of a character. -/
def isInner (byte : UInt8) : Prop :=
  0x80 ≤ byte.toNat ∧ byte.toNat < 0xC0

/-- A character has one byte that begins it, and the others stand inside of it. -/
theorem exists_encodeChar (c : Char) : ∃ first inner, Utf8.encodeChar c = first :: inner ∧
    ¬ isInner first ∧ ∀ byte ∈ inner, isInner byte := by
  by_cases hc : c.toNat < 0x80
  · refine ⟨ascii c, [], Utf8.encodeChar_of_ascii hc, fun hfirst => ?_, by simp⟩
    have hlow := hfirst.1
    rw [toNat_ascii hc] at hlow
    omega
  · obtain ⟨first, inner, hbytes, hfirst, -, hinner⟩ :=
      Utf8.exists_encodeChar_of_wide (Nat.not_lt.mp hc)
    refine ⟨first, inner, hbytes, fun hlow => ?_, hinner⟩
    have hhigh := hlow.2
    omega

/-- A text that is not empty begins with a byte that begins a character. -/
theorem exists_encode {text : Text} (h : text ≠ []) :
    ∃ first bytes, Utf8.encode text = first :: bytes ∧ ¬ isInner first := by
  obtain ⟨c, rest, rfl⟩ := List.exists_cons_of_ne_nil h
  obtain ⟨first, inner, hbytes, hfirst, -⟩ := exists_encodeChar c
  exact ⟨first, inner ++ Utf8.encode rest, by rw [Utf8.encode_cons, hbytes]; rfl, hfirst⟩

/-- **No text begins inside of a character.** -/
theorem not_prefix_inner {needle : Text} (hneedle : needle ≠ []) {byte : UInt8}
    (hbyte : isInner byte) (bytes : Bytes) : ¬ Utf8.encode needle <+: byte :: bytes := by
  obtain ⟨first, more, hbytes, hfirst⟩ := exists_encode hneedle
  rw [hbytes, List.cons_prefix_cons]
  rintro ⟨rfl, -⟩
  exact hfirst hbyte

/-- One text begins with another if its bytes do. -/
theorem encode_prefix_iff {needle text : Text} :
    Utf8.encode needle <+: Utf8.encode text ↔ needle <+: text := by
  constructor
  · rintro ⟨bytes, hbytes⟩
    obtain ⟨rest, rfl, -⟩ := Utf8.exists_of_encode_append hbytes.symm
    exact ⟨rest, rfl⟩
  · rintro ⟨rest, rfl⟩
    exact ⟨Utf8.encode rest, (Utf8.encode_append needle rest).symm⟩

theorem isPrefixOf_encode {needle text : Text} :
    (Utf8.encode needle).isPrefixOf (Utf8.encode text) ↔ needle <+: text := by
  rw [List.isPrefixOf_iff_prefix, encode_prefix_iff]

/-! ## Finding -/

/-- The first byte position at which some bytes stand. -/
def find? (needle : Bytes) : Bytes → Option Nat
  | [] => if needle = [] then some 0 else none
  | byte :: rest =>
    if needle.isPrefixOf (byte :: rest) then some 0 else (find? needle rest).map (· + 1)

/-- The last byte position at which some bytes stand. -/
def findLast? (needle : Bytes) : Bytes → Option Nat
  | [] => if needle = [] then some 0 else none
  | byte :: rest =>
    match findLast? needle rest with
    | some position => some (position + 1)
    | none => if needle.isPrefixOf (byte :: rest) then some 0 else none

/-- The position among the characters of a text that a byte position in it is. -/
def positionText (text : Text) : Option Nat → Checked Text
  | some position => do
    let before ← cut text 0 position
    .ok (Number.digitsText before.length)
  | none => .ok ['-', '1']

section Inner

variable {needle : Text} (hneedle : needle ≠ []) {inner : Bytes}
  (hinner : ∀ byte ∈ inner, isInner byte) (bytes : Bytes)

include hneedle hinner

theorem find?_inner : find? (Utf8.encode needle) (inner ++ bytes)
    = (find? (Utf8.encode needle) bytes).map (· + inner.length) := by
  induction inner with
  | nil => simp
  | cons byte inner ih =>
    have hno := not_prefix_inner hneedle (hinner byte List.mem_cons_self) (inner ++ bytes)
    rw [← List.isPrefixOf_iff_prefix] at hno
    rw [List.cons_append, find?, if_neg hno,
      ih fun b hb => hinner b (List.mem_cons_of_mem _ hb), Option.map_map]
    rfl

theorem findLast?_inner : findLast? (Utf8.encode needle) (inner ++ bytes)
    = (findLast? (Utf8.encode needle) bytes).map (· + inner.length) := by
  induction inner with
  | nil => simp
  | cons byte inner ih =>
    have hno := not_prefix_inner hneedle (hinner byte List.mem_cons_self) (inner ++ bytes)
    rw [← List.isPrefixOf_iff_prefix] at hno
    rw [List.cons_append, findLast?, ih fun b hb => hinner b (List.mem_cons_of_mem _ hb)]
    cases findLast? (Utf8.encode needle) bytes with
    | none => exact if_neg hno
    | some position => rfl

end Inner

theorem encode_eq_nil_iff {text : Text} : Utf8.encode text = [] ↔ text = [] := by
  constructor
  · intro h
    by_cases htext : text = []
    · exact htext
    · obtain ⟨first, bytes, hbytes, -⟩ := exists_encode htext
      rw [h] at hbytes
      cases hbytes
  · rintro rfl
    rfl

/-- The bytes of the characters before a position. -/
theorem utf8Size_take_succ (c : Char) (rest : Text) (i : Nat) :
    Text.utf8Size ((c :: rest).take (i + 1)) = Text.utf8Size (rest.take i) + c.utf8Size := by
  rw [List.take_succ_cons, Text.utf8Size_cons, Nat.add_comm]

/-- The bytes of a text, from the first one of its first character. -/
theorem exists_encode_cons (c : Char) (rest : Text) : ∃ first inner,
    Utf8.encode (c :: rest) = first :: (inner ++ Utf8.encode rest) ∧
      (∀ byte ∈ inner, isInner byte) ∧ inner.length + 1 = c.utf8Size := by
  obtain ⟨first, inner, hbytes, -, hinner⟩ := exists_encodeChar c
  refine ⟨first, inner, ?_, hinner, ?_⟩
  · rw [Utf8.encode_cons, hbytes]
    rfl
  · rw [← length_encodeChar, hbytes]
    rfl

/-- **The search from the front** finds the bytes of a text where the text itself is found first. -/
theorem find?_encode (needle text : Text) : find? (Utf8.encode needle) (Utf8.encode text)
    = (Text.indexOf? needle text).map fun i => Text.utf8Size (text.take i) := by
  induction text with
  | nil =>
    simp only [Utf8.encode_nil, find?, Text.indexOf?, encode_eq_nil_iff]
    split <;> rfl
  | cons c rest ih =>
    obtain ⟨first, inner, hbytes, hinner, hsize⟩ := exists_encode_cons c rest
    rw [hbytes, find?, Text.indexOf?, ← hbytes]
    by_cases hprefix : needle <+: c :: rest
    · rw [if_pos (isPrefixOf_encode.mpr hprefix), if_pos (List.isPrefixOf_iff_prefix.mpr hprefix)]
      rfl
    · have hneedle : needle ≠ [] := by
        rintro rfl
        exact hprefix List.nil_prefix
      rw [if_neg (mt isPrefixOf_encode.mp hprefix),
        if_neg (mt List.isPrefixOf_iff_prefix.mp hprefix), find?_inner hneedle hinner, ih]
      simp only [Option.map_map, Function.comp_def, utf8Size_take_succ, ← hsize, Nat.add_assoc]

theorem findLast?_nil (bytes : Bytes) : findLast? [] bytes = some bytes.length := by
  induction bytes with
  | nil => rfl
  | cons byte bytes ih => rw [findLast?, ih, List.length_cons]

theorem lastIndexOf?_nil (text : Text) : Text.lastIndexOf? [] text = some text.length := by
  induction text with
  | nil => rfl
  | cons c text ih => rw [Text.lastIndexOf?, ih, List.length_cons]

/-- **The search from the back** finds the bytes of a text where the text itself is found last. -/
theorem findLast?_encode (needle text : Text) :
    findLast? (Utf8.encode needle) (Utf8.encode text)
      = (Text.lastIndexOf? needle text).map fun i => Text.utf8Size (text.take i) := by
  by_cases hneedle : needle = []
  · rw [hneedle, Utf8.encode_nil, findLast?_nil, lastIndexOf?_nil, Option.map_some,
      List.take_length, length_encode]
  induction text with
  | nil => simp [findLast?, Text.lastIndexOf?, encode_eq_nil_iff, hneedle]
  | cons c rest ih =>
    obtain ⟨first, inner, hbytes, hinner, hsize⟩ := exists_encode_cons c rest
    rw [hbytes, findLast?, Text.lastIndexOf?, ← hbytes, findLast?_inner hneedle hinner, ih]
    cases Text.lastIndexOf? needle rest with
    | some i =>
      simp only [Option.map_some, utf8Size_take_succ, ← hsize, Nat.add_assoc]
    | none =>
      simp only [Option.map_none, List.isPrefixOf_iff_prefix, encode_prefix_iff]
      split <;> rfl

/-! ## Positions -/

theorem indexOf?_le {needle text : Text} {i : Nat} (h : Text.indexOf? needle text = some i) :
    i ≤ text.length := by
  induction text generalizing i with
  | nil =>
    rw [Text.indexOf?, Option.ite_none_right_eq_some] at h
    exact Nat.le_of_eq (Option.some.inj h.2).symm
  | cons c rest ih =>
    rw [Text.indexOf?] at h
    split at h
    · rw [← Option.some.inj h]
      exact Nat.zero_le _
    · obtain ⟨j, hj, rfl⟩ := Option.map_eq_some_iff.mp h
      exact Nat.succ_le_succ (ih hj)

theorem lastIndexOf?_le {needle text : Text} {i : Nat}
    (h : Text.lastIndexOf? needle text = some i) : i ≤ text.length := by
  induction text generalizing i with
  | nil =>
    rw [Text.lastIndexOf?, Option.ite_none_right_eq_some] at h
    exact Nat.le_of_eq (Option.some.inj h.2).symm
  | cons c rest ih =>
    rw [Text.lastIndexOf?] at h
    split at h
    · rename_i j hj
      rw [← Option.some.inj h]
      exact Nat.succ_le_succ (ih hj)
    · rw [Option.ite_none_right_eq_some] at h
      rw [← Option.some.inj h.2]
      exact Nat.zero_le _

/-- **A position that was found** is one at which the text can be cut. -/
theorem positionText_eq {text : Text} {found : Option Nat} (h : ∀ i ∈ found, i ≤ text.length) :
    positionText text (found.map fun i => Text.utf8Size (text.take i))
      = .ok (Function.positionText found) := by
  cases found with
  | none => rfl
  | some i =>
    have hstart : Cursor text 0 (text.take i ++ text.drop i) := by
      rw [List.take_append_drop]
      exact Cursor.start text
    have hcut : cut text 0 (Text.utf8Size (text.take i)) = .ok (text.take i) := by
      rw [← hstart.cut_eq, Nat.zero_add]
    rw [Option.map_some, positionText, hcut, ok_bind, List.length_take_of_le (h i rfl)]
    rfl

end Rowwise.Machine
