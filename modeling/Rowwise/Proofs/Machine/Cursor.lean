import Rowwise.Number.Binary64
import Rowwise.Proofs.Text.Validity

/-!
# Machine — Cursors

Computing with machine words and byte positions, where a step that makes no sense is a `Fault`:
text is cut at the boundaries of characters only, lists are looked into in their range, and
arithmetic stays in the range of words.

A cursor is a byte position in a text at which a character begins, with the text that is still
ahead of it (`Cursor`). That is the invariant of all loops over texts here. From it follows which
byte stands at the position, that the text can be cut there, and that moving past what was read
gives a cursor again.
-/

namespace Rowwise.Machine

/-- Why a step cannot be made. -/
inductive Fault
  /-- A text is cut inside a character or after its end. -/
  | boundary
  /-- A place outside of a list is looked at. -/
  | range
  /-- A number does not fit into a word. -/
  | overflow
  /-- The bounds of an interval are in the wrong order. -/
  | emptyInterval
  /-- A loop has not ended in its number of rounds. -/
  | endless
  /-- A function has no operation. -/
  | noOperation
  deriving DecidableEq

/-- What comes of steps that can fail. -/
abbrev Checked (α : Type) := Except Fault α

@[simp] theorem ok_bind {α β : Type} (a : α) (f : α → Checked β) : (Except.ok a >>= f) = f a := rfl

/-! ## Words -/

/-- Lengths are below this bound. -/
def lengthBound : Nat := 0x8000000000000000

/-- Unsigned words are below this bound. -/
def wordBound : Nat := 0x10000000000000000

/-- The sum of two unsigned words. -/
def add (a b : Nat) : Checked Nat :=
  if a + b < wordBound then .ok (a + b) else .error .overflow

/-- The difference of two unsigned words. -/
def sub (a b : Nat) : Checked Nat :=
  if b ≤ a then .ok (a - b) else .error .overflow

/-- The sum of two signed words. -/
def addSigned (a b : Int) : Checked Int :=
  if Binary64.minInteger ≤ a + b ∧ a + b ≤ Binary64.maxInteger then .ok (a + b)
  else .error .overflow

/-- The signed word with the bits of an unsigned one. -/
def toSigned (n : Nat) : Int :=
  (n : Int).bmod wordBound

/-- The unsigned word with the bits of a signed one. -/
def toWord (n : Int) : Nat :=
  (n % wordBound).toNat

/-- The number of an interval that is nearest to a number. -/
def clamp (n low high : Int) : Checked Int :=
  if low ≤ high then .ok (max low (min high n)) else .error .emptyInterval

theorem add_of_lt {a b : Nat} (h : a + b < 2 * lengthBound) : add a b = .ok (a + b) :=
  if_pos h

theorem add_one {a : Nat} (h : a < lengthBound) : add a 1 = .ok (a + 1) := by
  refine add_of_lt ?_
  rw [lengthBound] at *
  omega

theorem sub_of_le {a b : Nat} (h : b ≤ a) : sub a b = .ok (a - b) :=
  if_pos h

theorem toSigned_of_lt {n : Nat} (h : n < lengthBound) : toSigned n = n := by
  rw [lengthBound] at h
  rw [toSigned, wordBound, Int.bmod_def]
  split <;> omega

theorem addSigned_of_bounds {a b : Int}
    (h : Binary64.minInteger ≤ a + b ∧ a + b ≤ Binary64.maxInteger) :
    addSigned a b = .ok (a + b) :=
  if_pos h

theorem clamp_of_le {n low high : Int} (h : low ≤ high) :
    clamp n low high = .ok (max low (min high n)) :=
  if_pos h

/-- A number that is clamped to a length is a word. -/
theorem toWord_clamp (n : Int) {length : Nat} (h : length < lengthBound) :
    toWord (max 0 (min length n)) = min n.toNat length := by
  rw [lengthBound] at h
  rw [toWord, wordBound]
  omega

/-! ## Lists -/

/-- The item at a place of a list. -/
def item {α : Type} (items : List α) (i : Nat) : Checked α :=
  match items[i]? with
  | some a => .ok a
  | none => .error .range

/-- The items from a place of a list up to another. -/
def extract {α : Type} (items : List α) (start stop : Nat) : Checked (List α) :=
  if start ≤ stop ∧ stop ≤ items.length then .ok ((items.take stop).drop start)
  else .error .range

theorem item_of_some {α : Type} {items : List α} {i : Nat} {a : α} (h : items[i]? = some a) :
    item items i = .ok a := by
  rw [item, h]

theorem extract_of_le {α : Type} {items : List α} {start stop : Nat} (h : start ≤ stop)
    (hstop : stop ≤ items.length) :
    extract items start stop = .ok ((items.take stop).drop start) :=
  if_pos ⟨h, hstop⟩

/-! ## Loops -/

/-- How a round of a loop ends. -/
inductive Round (σ α : Type)
  | again (state : σ)
  | done (value : α)

/-- A loop of so many rounds at most. -/
def rounds {σ α : Type} (round : σ → Checked (Round σ α)) : (fuel : Nat) → σ → Checked α
  | 0, _ => .error .endless
  | fuel + 1, state => do
    match ← round state with
    | .again next => rounds round fuel next
    | .done value => .ok value

/-- From this state the loop ends with a value, in so many rounds. -/
def Ends {σ α : Type} (round : σ → Checked (Round σ α)) (count : Nat) (state : σ) (value : α) :
    Prop :=
  ∀ fuel, count ≤ fuel → rounds round fuel state = .ok value

namespace Ends

variable {σ α : Type} {round : σ → Checked (Round σ α)} {count : Nat} {state : σ} {value : α}

theorem done (h : round state = .ok (.done value)) : Ends round (count + 1) state value := by
  intro fuel hfuel
  obtain ⟨fuel, rfl⟩ := Nat.exists_eq_add_of_le' hfuel
  rw [← Nat.add_assoc, rounds, h]
  rfl

theorem again {next : σ} (h : round state = .ok (.again next)) (hnext : Ends round count next value) :
    Ends round (count + 1) state value := by
  intro fuel hfuel
  obtain ⟨fuel, rfl⟩ := Nat.exists_eq_add_of_le' hfuel
  rw [← Nat.add_assoc, rounds, h]
  exact hnext _ (Nat.le_add_left _ _)

theorem mono {more : Nat} (h : Ends round count state value) (hle : count ≤ more) :
    Ends round more state value :=
  fun fuel hfuel => h fuel (Nat.le_trans hle hfuel)

/-- Some rounds that differ in a number only. -/
theorem run (state : Nat → σ) {n : Nat}
    (h : ∀ i < n, round (state i) = .ok (.again (state (i + 1))))
    (hlast : Ends round count (state n) value) : Ends round (n + count) (state 0) value := by
  induction n generalizing state with
  | zero => rwa [Nat.zero_add]
  | succ n ih =>
    have hrest : Ends round (n + count) (state 1) value :=
      ih (fun i => state (i + 1)) (fun i hi => h (i + 1) (Nat.succ_lt_succ hi)) hlast
    rw [Nat.add_right_comm]
    exact again (h 0 (Nat.succ_pos n)) hrest

end Ends

/-! ## Cutting texts -/

/-- The text after so many bytes, if a character ends with them. -/
def dropBytes? : Nat → Text → Option Text
  | 0, text => some text
  | _ + 1, [] => none
  | size + 1, c :: text =>
    if c.utf8Size ≤ size + 1 then dropBytes? (size + 1 - c.utf8Size) text else none

/-- The text of so many bytes, if a character ends with them. -/
def takeBytes? : Nat → Text → Option Text
  | 0, _ => some []
  | _ + 1, [] => none
  | size + 1, c :: text =>
    if c.utf8Size ≤ size + 1 then (takeBytes? (size + 1 - c.utf8Size) text).map (c :: ·) else none

/-- The text from a byte position up to another, if both are boundaries of characters. -/
def cut? (text : Text) (start stop : Nat) : Option Text :=
  if start ≤ stop then (dropBytes? start text).bind (takeBytes? (stop - start)) else none

/-- The text from a byte position up to another. -/
def cut (text : Text) (start stop : Nat) : Checked Text :=
  match cut? text start stop with
  | some part => .ok part
  | none => .error .boundary

/-- The text from a byte position. -/
def ahead (text : Text) (start : Nat) : Checked Text :=
  match dropBytes? start text with
  | some rest => .ok rest
  | none => .error .boundary

theorem dropBytes?_append (a b : Text) : dropBytes? (Text.utf8Size a) (a ++ b) = some b := by
  induction a with
  | nil => rw [Text.utf8Size_nil, dropBytes?, List.nil_append]
  | cons c a ih =>
    obtain ⟨size, hsize⟩ := Nat.exists_eq_succ_of_ne_zero
      (show c.utf8Size + Text.utf8Size a ≠ 0 by have := c.utf8Size_pos; omega)
    have hrest : size + 1 - c.utf8Size = Text.utf8Size a := by omega
    rw [Text.utf8Size_cons, hsize, List.cons_append, dropBytes?, if_pos (by omega), hrest, ih]

theorem takeBytes?_append (a b : Text) : takeBytes? (Text.utf8Size a) (a ++ b) = some a := by
  induction a with
  | nil => rw [Text.utf8Size_nil, takeBytes?]
  | cons c a ih =>
    obtain ⟨size, hsize⟩ := Nat.exists_eq_succ_of_ne_zero
      (show c.utf8Size + Text.utf8Size a ≠ 0 by have := c.utf8Size_pos; omega)
    have hrest : size + 1 - c.utf8Size = Text.utf8Size a := by omega
    rw [Text.utf8Size_cons, hsize, List.cons_append, takeBytes?, if_pos (by omega), hrest, ih]
    rfl

/-! ## Bytes of characters -/

/-- The byte of an ASCII character. -/
def ascii (c : Char) : UInt8 :=
  UInt8.ofNat c.toNat

theorem length_encodeChar (c : Char) : (Utf8.encodeChar c).length = c.utf8Size := by
  have htoNat : c.val.toNat = c.toNat := rfl
  simp only [Utf8.encodeChar, Char.utf8Size, UInt32.le_iff_toNat_le, htoNat,
    UInt32.toNat_ofNatLT]
  split
  · rw [if_pos (by omega)]
    rfl
  split
  · rw [if_neg (by omega), if_pos (by omega)]
    rfl
  split
  · rw [if_neg (by omega), if_neg (by omega), if_pos (by omega)]
    rfl
  · rw [if_neg (by omega), if_neg (by omega), if_neg (by omega)]
    rfl

theorem exists_encodeChar_cons (c : Char) : ∃ byte more, Utf8.encodeChar c = byte :: more := by
  refine List.exists_cons_of_ne_nil (List.length_pos_iff.mp ?_)
  rw [length_encodeChar]
  exact c.utf8Size_pos

theorem length_encode (text : Text) : (Utf8.encode text).length = Text.utf8Size text := by
  induction text with
  | nil => rfl
  | cons c text ih => rw [Utf8.encode_cons, List.length_append, length_encodeChar, ih,
      Text.utf8Size_cons]

/-- No character is without bytes. -/
theorem length_le_utf8Size (text : Text) : text.length ≤ Text.utf8Size text := by
  induction text with
  | nil => exact Nat.le_refl 0
  | cons c text ih =>
    have := c.utf8Size_pos
    rw [List.length_cons, Text.utf8Size_cons]
    omega

theorem utf8Size_eq_zero_iff {text : Text} : Text.utf8Size text = 0 ↔ text = [] := by
  cases text with
  | nil => simp
  | cons c text =>
    have := c.utf8Size_pos
    simp only [Text.utf8Size_cons, reduceCtorEq, iff_false]
    omega

theorem utf8Size_pos {text : Text} (h : text ≠ []) : 0 < Text.utf8Size text :=
  Nat.pos_of_ne_zero (mt utf8Size_eq_zero_iff.mp h)

theorem toNat_ascii {c : Char} (h : c.toNat < 0x80) : (ascii c).toNat = c.toNat := by
  rw [ascii, UInt8.toNat_ofNat']
  omega

theorem ascii_inj {c d : Char} (hc : c.toNat < 0x80) (hd : d.toNat < 0x80) :
    ascii c = ascii d ↔ c = d := by
  refine ⟨fun h => ?_, congrArg ascii⟩
  rw [← Char.ofNat_toNat c, ← Char.ofNat_toNat d, ← toNat_ascii hc, ← toNat_ascii hd, h]

theorem utf8Size_of_ascii {c : Char} (h : c.toNat < 0x80) : c.utf8Size = 1 := by
  rw [← length_encodeChar, Utf8.encodeChar_of_ascii h]
  rfl

theorem two_le_utf8Size {c : Char} (h : ¬ c.toNat < 0x80) : 2 ≤ c.utf8Size := by
  have hpos := c.utf8Size_pos
  have hne : c.utf8Size ≠ 1 := by
    rw [Ne, Char.utf8Size_eq_one_iff, UInt32.le_iff_toNat_le]
    exact fun hle => h (Nat.lt_succ_of_le hle)
  omega

/-- No byte of a character is the byte of another ASCII character. -/
theorem ne_ascii_of_mem {c mark : Char} (hne : c ≠ mark) (hmark : mark.toNat < 0x80)
    {byte : UInt8} (hbyte : byte ∈ Utf8.encodeChar c) : byte ≠ ascii mark := by
  rintro rfl
  have hcode := toNat_ascii hmark
  have hc := Utf8.eq_ofNat_of_mem_encodeChar (by omega) hbyte
  rw [hcode, Char.ofNat_toNat] at hc
  exact hne hc

/-- Whether a byte is that of a character of some kind. -/
def byteIs (kind : Char → Bool) (byte : UInt8) : Bool :=
  kind (Char.ofNat byte.toNat)

theorem byteIs_ascii (kind : Char → Bool) {c : Char} (h : c.toNat < 0x80) :
    byteIs kind (ascii c) = kind c := by
  rw [byteIs, toNat_ascii h, Char.ofNat_toNat]

/-- The bytes of a character are of no kind of ASCII characters but its own. -/
theorem byteIs_of_mem {kind : Char → Bool} (hkind : ∀ c, kind c → c.toNat < 0x80) {c : Char}
    (hc : ¬ kind c) {byte : UInt8} (hbyte : byte ∈ Utf8.encodeChar c) : ¬ byteIs kind byte := by
  intro hbyteIs
  have hcode : (Char.ofNat byte.toNat).toNat = byte.toNat :=
    Utf8.toNat_ofNat_of_valid (.inl (Nat.lt_trans byte.toNat_lt (by decide)))
  have hascii : byte.toNat < 0x80 := hcode ▸ hkind _ hbyteIs
  rw [byteIs, ← Utf8.eq_ofNat_of_mem_encodeChar hascii hbyte] at hbyteIs
  exact hc hbyteIs

/-- The bytes in front that are of a kind of ASCII characters are those of the characters in front
that are of that kind. -/
theorem takeWhile_encode {kind : Char → Bool} (hkind : ∀ c, kind c → c.toNat < 0x80)
    (text : Text) :
    (Utf8.encode text).takeWhile (byteIs kind) = Utf8.encode (text.takeWhile kind) := by
  induction text with
  | nil => rfl
  | cons c text ih =>
    by_cases hc : kind c
    · have hascii := hkind c hc
      have hbyte : byteIs kind (ascii c) := (byteIs_ascii kind hascii).trans hc
      rw [List.takeWhile_cons_of_pos hc, Utf8.encode_cons, Utf8.encode_cons,
        Utf8.encodeChar_of_ascii hascii, List.singleton_append, ← ascii,
        List.takeWhile_cons_of_pos hbyte, ih, List.singleton_append]
    · obtain ⟨byte, more, hbytes⟩ := exists_encodeChar_cons c
      have hbyte : ¬ byteIs kind byte :=
        byteIs_of_mem hkind hc (hbytes ▸ List.mem_cons_self)
      rw [List.takeWhile_cons_of_neg hc, Utf8.encode_cons, hbytes, List.cons_append,
        List.takeWhile_cons_of_neg hbyte]
      rfl

/-- A text begins with the byte of an ASCII character only where it begins with the character. -/
theorem head?_encode_eq_some {mark : Char} (hmark : mark.toNat < 0x80) {text : Text}
    (h : (Utf8.encode text).head? = some (ascii mark)) : ∃ rest, text = mark :: rest := by
  cases text with
  | nil => cases h
  | cons c rest =>
    refine ⟨rest, congrArg (· :: rest) (Classical.byContradiction fun hne => ?_)⟩
    obtain ⟨byte, more, hbytes⟩ := exists_encodeChar_cons c
    rw [Utf8.encode_cons, hbytes] at h
    exact ne_ascii_of_mem hne hmark (by rw [hbytes]; exact List.mem_cons_self) (Option.some.inj h)

theorem toNat_lt_of_isDigit {c : Char} (h : c.isDigit) : c.toNat < 0x80 := by
  have htoNat : c.val.toNat = c.toNat := rfl
  have hnine : '9'.val.toNat = 57 := rfl
  simp only [Char.isDigit, Bool.and_eq_true, decide_eq_true_eq, UInt32.le_iff_toNat_le,
    htoNat] at h
  omega

theorem toNat_lt_of_isNameChar {c : Char} (h : isNameChar c) : c.toNat < 0x80 := by
  have htoNat : c.val.toNat = c.toNat := rfl
  have hcapital : 'Z'.val.toNat = 90 := rfl
  have hsmall : 'z'.val.toNat = 122 := rfl
  have halphanum : c.isAlphanum = (c.isUpper || c.isLower || c.isDigit) := rfl
  have hupper : c.isUpper = decide ('A'.val ≤ c.val ∧ c.val ≤ 'Z'.val) := rfl
  have hlower : c.isLower = (decide ('a'.val ≤ c.val) && decide (c.val ≤ 'z'.val)) := rfl
  simp only [isNameChar, halphanum, hupper, hlower, Bool.or_eq_true, Bool.and_eq_true,
    decide_eq_true_eq, beq_iff_eq, UInt32.le_iff_toNat_le, htoNat] at h
  rcases h with ((h | h) | h) | rfl
  · omega
  · omega
  · exact toNat_lt_of_isDigit h
  · decide

/-! ## Cursors -/

/-- At this byte of the text a character begins or the text ends, and the rest is still ahead. -/
def Cursor (text : Text) (pos : Nat) (rest : Text) : Prop :=
  ∃ before, text = before ++ rest ∧ Text.utf8Size before = pos

namespace Cursor

variable {text rest : Text} {pos : Nat}

theorem start (text : Text) : Cursor text 0 text :=
  ⟨[], rfl, rfl⟩

/-- **Reading moves a cursor** to a cursor. -/
theorem append {part : Text} (h : Cursor text pos (part ++ rest)) :
    Cursor text (pos + Text.utf8Size part) rest := by
  obtain ⟨before, rfl, rfl⟩ := h
  exact ⟨before ++ part, (List.append_assoc ..).symm, Text.utf8Size_append _ _⟩

theorem next {c : Char} (h : Cursor text pos (c :: rest)) :
    Cursor text (pos + c.utf8Size) rest := by
  have hnext : Cursor text (pos + Text.utf8Size [c]) rest := append h
  rwa [Text.utf8Size_cons, Text.utf8Size_nil] at hnext

theorem next_ascii {c : Char} (h : Cursor text pos (c :: rest)) (hc : c.toNat < 0x80) :
    Cursor text (pos + 1) rest :=
  utf8Size_of_ascii hc ▸ h.next

/-- What has been read and what is ahead make up the text. -/
theorem add_utf8Size (h : Cursor text pos rest) :
    pos + Text.utf8Size rest = (Utf8.encode text).length := by
  obtain ⟨before, rfl, rfl⟩ := h
  rw [length_encode, Text.utf8Size_append]

theorem drop_encode (h : Cursor text pos rest) : (Utf8.encode text).drop pos = Utf8.encode rest := by
  obtain ⟨before, rfl, rfl⟩ := h
  rw [Utf8.encode_append, ← length_encode, List.drop_left]

/-- **The text can be cut** at a cursor and after what was read from it. -/
theorem cut?_eq {part : Text} (h : Cursor text pos (part ++ rest)) :
    cut? text pos (pos + Text.utf8Size part) = some part := by
  obtain ⟨before, rfl, rfl⟩ := h
  rw [cut?, if_pos (Nat.le_add_right _ _), dropBytes?_append, Nat.add_sub_cancel_left,
    Option.bind_some, takeBytes?_append]

theorem cut_eq {part : Text} (h : Cursor text pos (part ++ rest)) :
    cut text pos (pos + Text.utf8Size part) = .ok part := by
  rw [cut, h.cut?_eq]

theorem dropBytes?_eq (h : Cursor text pos rest) : dropBytes? pos text = some rest := by
  obtain ⟨before, rfl, rfl⟩ := h
  rw [dropBytes?_append]

theorem ahead_eq (h : Cursor text pos rest) : ahead text pos = .ok rest := by
  rw [ahead, h.dropBytes?_eq]

/-- The byte at a cursor is the first one ahead. -/
theorem getElem?_eq (h : Cursor text pos rest) :
    (Utf8.encode text)[pos]? = (Utf8.encode rest).head? := by
  rw [← h.drop_encode, List.head?_drop]

theorem item_ascii {c : Char} (h : Cursor text pos (c :: rest)) (hc : c.toNat < 0x80) :
    item (Utf8.encode text) pos = .ok (ascii c) := by
  apply item_of_some
  rw [h.getElem?_eq, Utf8.encode_cons, Utf8.encodeChar_of_ascii hc]
  rfl

theorem lt_length {c : Char} (h : Cursor text pos (c :: rest)) :
    pos < (Utf8.encode text).length := by
  have := h.add_utf8Size
  have := c.utf8Size_pos
  rw [Text.utf8Size_cons] at *
  omega

theorem not_lt_length (h : Cursor text pos []) : ¬ pos < (Utf8.encode text).length := by
  have := h.add_utf8Size
  rw [Text.utf8Size_nil] at this
  omega

/-- Each byte of the next character is there. -/
theorem item_add {c : Char} (h : Cursor text pos (c :: rest)) {i : Nat}
    (hi : i < (Utf8.encodeChar c).length) :
    item (Utf8.encode text) (pos + i) = .ok (Utf8.encodeChar c)[i] := by
  apply item_of_some
  rw [← List.getElem?_drop, h.drop_encode, Utf8.encode_cons, List.getElem?_append_left hi,
    List.getElem?_eq_getElem hi]

theorem exists_item {c : Char} (h : Cursor text pos (c :: rest)) {i : Nat} (hi : i < c.utf8Size) :
    ∃ byte ∈ Utf8.encodeChar c, item (Utf8.encode text) (pos + i) = .ok byte := by
  rw [← length_encodeChar] at hi
  exact ⟨_, List.getElem_mem hi, h.item_add hi⟩

/-- The bytes of what was read can be taken out. -/
theorem extract_eq {part : Text} (h : Cursor text pos (part ++ rest)) :
    extract (Utf8.encode text) pos (pos + Text.utf8Size part) = .ok (Utf8.encode part) := by
  have hsize := h.add_utf8Size
  rw [Text.utf8Size_append] at hsize
  rw [extract_of_le (Nat.le_add_right _ _) (by omega), List.drop_take, h.drop_encode,
    Nat.add_sub_cancel_left, Utf8.encode_append, ← length_encode, List.take_left]

theorem extract_rest (h : Cursor text pos rest) :
    extract (Utf8.encode text) pos (Utf8.encode text).length = .ok (Utf8.encode rest) := by
  have hwhole : Cursor text pos (rest ++ []) := by rwa [List.append_nil]
  rw [← h.add_utf8Size, hwhole.extract_eq]

end Cursor

end Rowwise.Machine
