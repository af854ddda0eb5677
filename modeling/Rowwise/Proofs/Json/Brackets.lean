import Rowwise.Proofs.Json.Layout

/-!
# JSON — Brackets

How deep the brackets of a text nest can be told without reading the text: the brackets inside
strings are passed over, and the others are counted. In a text that was laid out they nest as deep
as the value does (`bracketDepth_layout`). No string disturbs the count, because in its escapes no
quote stands that could be taken for its end.
-/

namespace Rowwise.Json

/-- The most brackets and braces that are open at once in a text, if `opened` are open before it.
Those inside strings do not count; `inside` tells whether the text begins inside a string. -/
def bracketDepth : (inside : Bool) → (opened : Nat) → Text → Nat
  | _, opened, [] => opened
  | true, opened, '\\' :: _ :: rest => bracketDepth true opened rest
  | true, opened, c :: rest => bracketDepth (c != '"') opened rest
  | false, opened, c :: rest =>
    if c = '[' ∨ c = '\x7b' then bracketDepth false (opened + 1) rest
    else if c = ']' ∨ c = '\x7d' then max opened (bracketDepth false (opened - 1) rest)
    else bracketDepth (c == '"') opened rest

/-- The characters that count, or begin a string. -/
def delimiters : List Char :=
  ['[', '\x7b', ']', '\x7d', '"']

theorem le_bracketDepth (inside : Bool) (opened : Nat) (text : Text) :
    opened ≤ bracketDepth inside opened text := by
  fun_induction bracketDepth inside opened text with
  | case1 => exact Nat.le_refl _
  | case2 opened _ rest ih => exact ih
  | case3 opened c rest _ ih => exact ih
  | case4 opened c rest h ih => omega
  | case5 opened c rest h hclose ih => exact Nat.le_max_left _ _
  | case6 opened c rest h hclose ih => exact ih

theorem bracketDepth_array (opened : Nat) (text : Text) :
    bracketDepth false opened ('[' :: text) = bracketDepth false (opened + 1) text := rfl

theorem bracketDepth_object (opened : Nat) (text : Text) :
    bracketDepth false opened ('\x7b' :: text) = bracketDepth false (opened + 1) text := rfl

theorem bracketDepth_comma (opened : Nat) (text : Text) :
    bracketDepth false opened (',' :: text) = bracketDepth false opened text := rfl

theorem bracketDepth_colon (opened : Nat) (text : Text) :
    bracketDepth false opened (':' :: ' ' :: text) = bracketDepth false opened text := rfl

theorem bracketDepth_arrayEnd (opened : Nat) (text : Text) :
    bracketDepth false (opened + 1) (']' :: text)
      = max (opened + 1) (bracketDepth false opened text) := rfl

theorem bracketDepth_objectEnd (opened : Nat) (text : Text) :
    bracketDepth false (opened + 1) ('\x7d' :: text)
      = max (opened + 1) (bracketDepth false opened text) := rfl

/-- What stands between brackets and strings does not count. -/
theorem bracketDepth_plain {text : Text} (h : ∀ c ∈ text, c ∉ delimiters) (opened : Nat)
    (rest : Text) :
    bracketDepth false opened (text ++ rest) = bracketDepth false opened rest := by
  induction text with
  | nil => rfl
  | cons c text ih =>
    have hc := h c (by simp)
    simp only [delimiters, List.mem_cons, List.not_mem_nil, or_false, not_or] at hc
    have hquote : (c == '"') = false := by simp [hc]
    rw [List.cons_append, bracketDepth, if_neg (by simp [hc]), if_neg (by simp [hc]), hquote]
    exact ih fun c hc => h c (by simp [hc])

/-! ## Strings -/

/-- A character that neither ends a string nor begins an escape is passed over in it. -/
theorem bracketDepth_inside {c : Char} (hquote : c ≠ '"') (hbackslash : c ≠ '\\') (opened : Nat)
    (text : Text) :
    bracketDepth true opened (c :: text) = bracketDepth true opened text := by
  rw [bracketDepth]
  · rw [bne_iff_ne.mpr hquote]
  · intro _ _ hc
    exact absurd hc hbackslash

/-- The digits in which a control character is written are no delimiters. -/
theorem lowerDigit_control : ∀ code < 0x20,
    Hex.lowerDigit (code / 16) ∉ ['"', '\\'] ∧ Hex.lowerDigit (code % 16) ∉ ['"', '\\'] := by
  decide

/-- In a string the escape of a character is passed over. -/
theorem bracketDepth_escapeChar (opened : Nat) (c : Char) (text : Text) :
    bracketDepth true opened (escapeChar c ++ text) = bracketDepth true opened text := by
  by_cases hshort : c ∈ shortEscaped
  · simp only [shortEscaped, List.mem_cons, List.not_mem_nil, or_false] at hshort
    rcases hshort with rfl | rfl | rfl | rfl | rfl | rfl | rfl <;> rfl
  by_cases hcontrol : c.toNat < 0x20
  · obtain ⟨hhigh, hlow⟩ := lowerDigit_control c.toNat hcontrol
    simp only [List.mem_cons, List.not_mem_nil, or_false, not_or] at hhigh hlow
    rw [escapeChar_control hshort hcontrol]
    -- the backslash takes the letter after it along, and the digits are plain characters
    calc bracketDepth true opened ('\\' :: 'u' :: '0' :: '0' :: Hex.lowerDigit (c.toNat / 16) ::
            Hex.lowerDigit (c.toNat % 16) :: text)
        = bracketDepth true opened (Hex.lowerDigit (c.toNat / 16) ::
            Hex.lowerDigit (c.toNat % 16) :: text) := rfl
      _ = bracketDepth true opened (Hex.lowerDigit (c.toNat % 16) :: text) :=
          bracketDepth_inside hhigh.1 hhigh.2 _ _
      _ = bracketDepth true opened text := bracketDepth_inside hlow.1 hlow.2 _ _
  · rw [escapeChar_plain hshort hcontrol]
    apply bracketDepth_inside
    · rintro rfl
      exact hshort (by decide)
    · rintro rfl
      exact hshort (by decide)

/-- A string does not count, whatever it holds. -/
theorem bracketDepth_quoted (opened : Nat) (text rest : Text) :
    bracketDepth false opened (quoted text ++ rest) = bracketDepth false opened rest := by
  have hbody : bracketDepth true opened (text.flatMap escapeChar ++ '"' :: rest)
      = bracketDepth false opened rest := by
    induction text with
    | nil => rfl
    | cons c text ih => rw [List.flatMap_cons, List.append_assoc, bracketDepth_escapeChar, ih]
  rw [quoted_append]
  exact hbody

/-! ## Values -/

theorem bracketDepth_newline (opened depth : Nat) (rest : Text) :
    bracketDepth false opened (newline depth ++ rest) = bracketDepth false opened rest := by
  apply bracketDepth_plain
  intro c hc
  rcases List.mem_cons.mp hc with rfl | hc
  · decide
  · rw [(List.mem_replicate.mp hc).2]
    decide

theorem not_mem_delimiters_of_isDigit {c : Char} (h : c.isDigit) : c ∉ delimiters := by
  intro hc
  simp only [delimiters, List.mem_cons, List.not_mem_nil, or_false] at hc
  rcases hc with rfl | rfl | rfl | rfl | rfl <;> revert h <;> decide

theorem not_mem_delimiters_of_digitsText {n : Nat} {c : Char} (h : c ∈ Number.digitsText n) :
    c ∉ delimiters :=
  not_mem_delimiters_of_isDigit (Number.isDigit_of_mem_digitsText h)

theorem not_mem_delimiters_of_integerText {n : Int} {c : Char} (h : c ∈ Number.integerText n) :
    c ∉ delimiters := by
  unfold Number.integerText at h
  split at h
  · rcases List.mem_cons.mp h with rfl | h
    · decide
    · exact not_mem_delimiters_of_digitsText h
  · exact not_mem_delimiters_of_digitsText h

theorem not_mem_delimiters_of_decimalText {d : Decimal} {c : Char} (h : c ∈ decimalText d) :
    c ∉ delimiters := by
  unfold decimalText at h
  rcases List.mem_append.mp h with h | h
  · rcases List.mem_append.mp h with h | h
    · split at h
      · rw [List.mem_singleton.mp h]
        decide
      · exact absurd h (by simp)
    · exact not_mem_delimiters_of_digitsText h
  · rcases List.mem_cons.mp h with rfl | h
    · decide
    · exact not_mem_delimiters_of_integerText h

/-- What holds no bracket does not go deeper than what is open. -/
theorem bracketDepth_flat {text : Text} (opened : Nat) (rest : Text)
    (h : bracketDepth false opened (text ++ rest) = bracketDepth false opened rest) :
    bracketDepth false opened (text ++ rest) = max (opened + 0) (bracketDepth false opened rest) := by
  rw [h]
  exact (Nat.max_eq_right (le_bracketDepth _ _ _)).symm

mutual

/-- **A value** that was laid out has its brackets nest as deep as it does itself. -/
theorem bracketDepth_layout (value : Json) (indent opened : Nat) (rest : Text) :
    bracketDepth false opened (layout indent value ++ rest)
      = max (opened + value.nesting) (bracketDepth false opened rest) := by
  match value with
  | .null => exact bracketDepth_flat _ _ rfl
  | .bool true => exact bracketDepth_flat _ _ rfl
  | .bool false => exact bracketDepth_flat _ _ rfl
  | .integer _ =>
    apply bracketDepth_flat
    apply bracketDepth_plain
    intro c hc
    exact not_mem_delimiters_of_integerText hc
  | .decimal _ =>
    apply bracketDepth_flat
    apply bracketDepth_plain
    intro c hc
    exact not_mem_delimiters_of_decimalText hc
  | .string text =>
    apply bracketDepth_flat
    exact bracketDepth_quoted _ _ _
  | .array [] =>
    show bracketDepth false opened ('[' :: ']' :: rest) = max (opened + 1) _
    rw [bracketDepth_array, bracketDepth_arrayEnd]
  | .array (item :: items) =>
    have htext : layout indent (.array (item :: items)) ++ rest
        = '[' :: (newline (indent + 1) ++ (layout (indent + 1) item ++
          (layoutItems (indent + 1) items ++ (newline indent ++ ']' :: rest)))) := by
      simp [layout]
    rw [htext, bracketDepth_array, bracketDepth_newline, bracketDepth_layout item,
      bracketDepth_layoutItems items, bracketDepth_newline, bracketDepth_arrayEnd, nesting,
      itemsNesting]
    omega
  | .object [] =>
    show bracketDepth false opened ('\x7b' :: '\x7d' :: rest) = max (opened + 1) _
    rw [bracketDepth_object, bracketDepth_objectEnd]
  | .object ((key, value) :: fields) =>
    have htext : layout indent (.object ((key, value) :: fields)) ++ rest
        = '\x7b' :: (newline (indent + 1) ++ (quoted key ++ (':' :: ' ' ::
          (layout (indent + 1) value ++
            (layoutFields (indent + 1) fields ++ (newline indent ++ '\x7d' :: rest)))))) := by
      simp [layout]
    rw [htext, bracketDepth_object, bracketDepth_newline, bracketDepth_quoted,
      bracketDepth_colon, bracketDepth_layout value, bracketDepth_layoutFields fields,
      bracketDepth_newline, bracketDepth_objectEnd, nesting, fieldsNesting]
    omega

theorem bracketDepth_layoutItems (items : List Json) (indent opened : Nat) (rest : Text) :
    bracketDepth false opened (layoutItems indent items ++ rest)
      = max (opened + itemsNesting items) (bracketDepth false opened rest) := by
  match items with
  | [] => exact bracketDepth_flat _ _ rfl
  | item :: items =>
    have htext : layoutItems indent (item :: items) ++ rest
        = ',' :: (newline indent ++ (layout indent item ++ (layoutItems indent items ++ rest))) := by
      simp [layoutItems]
    rw [htext, bracketDepth_comma, bracketDepth_newline, bracketDepth_layout item,
      bracketDepth_layoutItems items, itemsNesting]
    omega

theorem bracketDepth_layoutFields (fields : List (Text × Json)) (indent opened : Nat)
    (rest : Text) :
    bracketDepth false opened (layoutFields indent fields ++ rest)
      = max (opened + fieldsNesting fields) (bracketDepth false opened rest) := by
  match fields with
  | [] => exact bracketDepth_flat _ _ rfl
  | (key, value) :: fields =>
    have htext : layoutFields indent ((key, value) :: fields) ++ rest
        = ',' :: (newline indent ++ (quoted key ++ (':' :: ' ' ::
          (layout indent value ++ (layoutFields indent fields ++ rest))))) := by
      simp [layoutFields]
    rw [htext, bracketDepth_comma, bracketDepth_newline, bracketDepth_quoted,
      bracketDepth_colon, bracketDepth_layout value, bracketDepth_layoutFields fields,
      fieldsNesting]
    omega

end

end Rowwise.Json
