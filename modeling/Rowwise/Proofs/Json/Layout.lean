import Rowwise.Json.Reader

/-!
# JSON — Layout

Reading back what was laid out. A value without numbers that is written over several lines reads as
itself, with any text after it, if it does not nest deeper than the reader goes; and if it does, the
text is malformed for the reader, whatever else it holds (`value_layout`).

What the reader makes of items and of fields is said for any reader of one item or one field, for
the documents of programs bring their own (`arrayRest_items`, `objectRest_fields`). The limit is met
where a bracket opens, so nothing but the nesting decides between the two outcomes: that is what
`within` says, and it passes from the parts of a value to the whole.
-/

namespace Rowwise.Json

/-! ## Nesting -/

mutual

/-- How deep the arrays and objects of a value nest. -/
def nesting : Json → Nat
  | .array items => itemsNesting items + 1
  | .object fields => fieldsNesting fields + 1
  | .null | .bool _ | .integer _ | .decimal _ | .string _ => 0

/-- How deep the deepest of some items nests. -/
def itemsNesting : List Json → Nat
  | [] => 0
  | item :: rest => max (nesting item) (itemsNesting rest)

/-- How deep the deepest of some fields nests. -/
def fieldsNesting : List (Text × Json) → Nat
  | [] => 0
  | (_, value) :: rest => max (nesting value) (fieldsNesting rest)

end

/-- The values in which no number stands. -/
inductive NumberFree : Json → Prop
  | null : NumberFree .null
  | bool (value : Bool) : NumberFree (.bool value)
  | string (text : Text) : NumberFree (.string text)
  | array {items : List Json} (h : ∀ item ∈ items, NumberFree item) : NumberFree (.array items)
  | object {fields : List (Text × Json)} (h : ∀ entry ∈ fields, NumberFree entry.2) :
    NumberFree (.object fields)

theorem NumberFree.of_mem_object {fields : List (Text × Json)} (h : NumberFree (.object fields))
    {entry : Text × Json} (hentry : entry ∈ fields) : NumberFree entry.2 := by
  cases h with
  | object h => exact h entry hentry

theorem nesting_le_itemsNesting {items : List Json} {item : Json} (h : item ∈ items) :
    nesting item ≤ itemsNesting items := by
  induction items with
  | nil => exact absurd h (by simp)
  | cons first rest ih =>
    rw [itemsNesting]
    rcases List.mem_cons.mp h with rfl | h
    · exact Nat.le_max_left _ _
    · exact Nat.le_trans (ih h) (Nat.le_max_right _ _)

/-! ## The limit -/

theorem ok_bind {ε α β : Type} (a : α) (f : α → Except ε β) : (Except.ok a >>= f) = f a := rfl

/-- What is read where something nests so deep and no more than `depth` is allowed. -/
def within {α : Type} (depth nesting : Nat) (a : α) : Except ReadError α :=
  if nesting ≤ depth then .ok a else .error .malformed

section Within

variable {α β : Type} {depth nesting : Nat}

theorem within_of_le (h : nesting ≤ depth) (a : α) : within depth nesting a = .ok a :=
  if_pos h

theorem within_of_lt (h : depth < nesting) (a : α) :
    within depth nesting a = .error .malformed :=
  if_neg (Nat.not_le_of_lt h)

/-- A bracket that opens takes one from the limit. -/
theorem within_succ (a : α) : within (depth + 1) (nesting + 1) a = within depth nesting a := by
  simp [within]

theorem map_within (f : α → β) (a : α) :
    (within depth nesting a).map f = within depth nesting (f a) := by
  unfold within
  split
  · rfl
  · rfl

/-- What goes on to succeed where the limit is kept stops nowhere else. -/
theorem within_bind_ok {a : α} {b : β} {f : α → Except ReadError β}
    (h : nesting ≤ depth → f a = .ok b) : (within depth nesting a >>= f) = within depth nesting b := by
  by_cases hlimit : nesting ≤ depth
  · rw [within_of_le hlimit, within_of_le hlimit]
    exact h hlimit
  · rw [within_of_lt (Nat.lt_of_not_le hlimit), within_of_lt (Nat.lt_of_not_le hlimit)]
    rfl

theorem within_bind_pure (f : α → β) (a : α) :
    (do let a ← within depth nesting a; pure (f a)) = within depth nesting (f a) :=
  within_bind_ok fun _ => rfl

/-- Of two things one after the other the deeper one decides. -/
theorem within_bind (other : Nat) (a : α) (f : α → β) :
    (within depth nesting a >>= fun a => within depth other (f a))
      = within depth (max nesting other) (f a) := by
  by_cases h : nesting ≤ depth
  · rw [within_of_le h]
    by_cases hother : other ≤ depth
    · rw [within_of_le (Nat.max_le.mpr ⟨h, hother⟩)]
      exact within_of_le hother _
    · rw [within_of_lt (by omega)]
      exact within_of_lt (by omega) _
  · rw [within_of_lt (by omega), within_of_lt (by omega)]
    rfl

end Within

/-- Items that are read within a limit each are read within it together. -/
theorem mapM_within {α β : Type} (depth : Nat) (nestingOf : β → Nat) (read : β → α)
    (items : List β) :
    (items.mapM fun item => within depth (nestingOf item) (read item))
      = within depth ((items.map nestingOf).foldr max 0) (items.map read) := by
  induction items with
  | nil => rfl
  | cons item rest ih =>
    rw [List.mapM_cons, ih]
    simp only [within_bind_pure]
    exact within_bind _ _ _

/-! ## White space -/

/-- A text that begins as a value does that is no number. -/
inductive Begins : Text → Prop
  | null (more : Text) : Begins ('n' :: more)
  | true (more : Text) : Begins ('t' :: more)
  | false (more : Text) : Begins ('f' :: more)
  | string (more : Text) : Begins ('"' :: more)
  | array (more : Text) : Begins ('[' :: more)
  | object (more : Text) : Begins ('\x7b' :: more)

theorem Begins.append {text : Text} (h : Begins text) (more : Text) : Begins (text ++ more) := by
  cases h <;> constructor

@[simp] theorem skipSpace_newline (depth : Nat) (text : Text) :
    skipSpace (newline depth ++ text) = skipSpace text := by
  apply List.dropWhile_append_of_pos
  intro c hc
  rcases List.mem_cons.mp hc with rfl | hc
  · rfl
  · rw [(List.mem_replicate.mp hc).2]
    rfl

@[simp] theorem skipSpace_space (text : Text) : skipSpace (' ' :: text) = skipSpace text := rfl

theorem skipSpace_of_begins {text : Text} (h : Begins text) : skipSpace text = text := by
  cases h <;> rfl

theorem begins_layout {value : Json} (h : NumberFree value) (depth : Nat) :
    Begins (layout depth value) := by
  cases h with
  | null => exact .null _
  | bool value =>
    cases value with
    | true => exact .true _
    | false => exact .false _
  | string text => exact .string _
  | @array items =>
    cases items with
    | nil => exact .array _
    | cons item rest => exact .array _
  | @object fields =>
    cases fields with
    | nil => exact .object _
    | cons entry rest => exact .object _

/-! ## Strings -/

/-- The two digits in which a control character is written. -/
theorem hexValue?_control : ∀ code < 0x20,
    hexValue? '0' '0' (Hex.lowerDigit (code / 16)) (Hex.lowerDigit (code % 16)) = some code := by
  decide

/-- The characters with a short escape. -/
def shortEscaped : List Char :=
  ['"', '\\', '\n', '\r', '\t', '\x08', '\x0c']

theorem escapeChar_control {c : Char} (hshort : c ∉ shortEscaped) (hcontrol : c.toNat < 0x20) :
    escapeChar c = ['\\', 'u', '0', '0', Hex.lowerDigit (c.toNat / 16),
      Hex.lowerDigit (c.toNat % 16)] := by
  simp only [shortEscaped, List.mem_cons, List.not_mem_nil, or_false, not_or] at hshort
  simp [escapeChar, hshort, hcontrol]

theorem escapeChar_plain {c : Char} (hshort : c ∉ shortEscaped) (hplain : ¬ c.toNat < 0x20) :
    escapeChar c = [c] := by
  simp only [shortEscaped, List.mem_cons, List.not_mem_nil, or_false, not_or] at hshort
  simp [escapeChar, hshort, hplain]

/-- **A character of a string** is read back from its escape. -/
theorem stringBody_escapeChar (fuel : Nat) (c : Char) (text : Text) :
    stringBody true (fuel + 1) (escapeChar c ++ text) = (do
      let (more, rest) ← stringBody true fuel text
      .ok (c :: more, rest)) := by
  by_cases hshort : c ∈ shortEscaped
  · simp only [shortEscaped, List.mem_cons, List.not_mem_nil, or_false] at hshort
    rcases hshort with rfl | rfl | rfl | rfl | rfl | rfl | rfl <;> rfl
  by_cases hcontrol : c.toNat < 0x20
  · have hescape : unicodeEscape true ('0' :: '0' :: Hex.lowerDigit (c.toNat / 16) ::
        Hex.lowerDigit (c.toNat % 16) :: text) = .ok (c, text) := by
      have hcode : hexCode ('0' :: '0' :: Hex.lowerDigit (c.toNat / 16) ::
          Hex.lowerDigit (c.toNat % 16) :: text) = .ok (c.toNat, text) := by
        rw [hexCode, hexValue?_control c.toNat hcontrol]
      -- a control character is far below the codes of surrogates
      have htrailing : isTrailing c.toNat = false := by
        simp only [isTrailing, Bool.and_eq_false_iff, decide_eq_false_iff_not]
        omega
      have hleading : isLeading c.toNat = false := by
        simp only [isLeading, Bool.and_eq_false_iff, decide_eq_false_iff_not]
        omega
      rw [unicodeEscape, hcode, ok_bind]
      simp [htrailing, hleading, Char.ofNat_toNat]
    rw [escapeChar_control hshort hcontrol]
    simp only [List.cons_append, List.nil_append, stringBody, hescape]
    rfl
  · have hquote : c ≠ '"' := by
      rintro rfl
      exact hshort (by decide)
    have hbackslash : c ≠ '\\' := by
      rintro rfl
      exact hshort (by decide)
    rw [escapeChar_plain hshort hcontrol, List.cons_append, List.nil_append, stringBody]
    · rw [if_neg hcontrol]
    · exact hquote
    · intro rest hc
      exact absurd hc hbackslash
    · exact hbackslash

theorem stringBody_escaped {fuel : Nat} {text : Text} (hfuel : text.length < fuel) (rest : Text) :
    stringBody true fuel (text.flatMap escapeChar ++ '"' :: rest) = .ok (text, rest) := by
  induction text generalizing fuel with
  | nil =>
    obtain ⟨fuel, rfl⟩ := Nat.exists_eq_add_of_lt hfuel
    rfl
  | cons c text ih =>
    obtain ⟨fuel, rfl⟩ : ∃ n, fuel = n + 1 := ⟨fuel - 1, by simp at hfuel; omega⟩
    rw [List.flatMap_cons, List.append_assoc, stringBody_escapeChar,
      ih (by simpa using hfuel)]
    rfl

theorem escapeChar_ne_nil (c : Char) : escapeChar c ≠ [] := by
  by_cases hshort : c ∈ shortEscaped
  · simp only [shortEscaped, List.mem_cons, List.not_mem_nil, or_false] at hshort
    rcases hshort with rfl | rfl | rfl | rfl | rfl | rfl | rfl <;> decide
  by_cases hcontrol : c.toNat < 0x20
  · simp [escapeChar_control hshort hcontrol]
  · simp [escapeChar_plain hshort hcontrol]

theorem length_le_escaped (text : Text) : text.length ≤ (text.flatMap escapeChar).length := by
  induction text with
  | nil => exact Nat.le_refl 0
  | cons c text ih =>
    have := List.length_pos_iff.mpr (escapeChar_ne_nil c)
    simp only [List.flatMap_cons, List.length_append, List.length_cons]
    omega

/-- A string is read back, whatever characters it holds. -/
theorem stringRest_escaped (text rest : Text) :
    stringRest true (text.flatMap escapeChar ++ '"' :: rest) = .ok (text, rest) := by
  apply stringBody_escaped
  -- no escape is empty, so the length of the text is fuel enough
  have := length_le_escaped text
  simp only [List.length_append]
  omega

theorem quoted_append (text rest : Text) :
    quoted text ++ rest = '"' :: (text.flatMap escapeChar ++ '"' :: rest) := by
  simp [quoted]

/-! ## Items -/

section Items

variable {α β : Type} {item : Reader α} {write : β → Text} {read : β → Except ReadError α}
  {items : List β}

theorem nextElement_first {text : Text} (h : Begins text) (depth : Nat) :
    nextElement true (newline depth ++ text) = .ok (some text) := by
  rw [nextElement, skipSpace_newline, skipSpace_of_begins h]
  cases h <;> rfl

theorem nextElement_next {text : Text} (h : Begins text) (depth : Nat) :
    nextElement false (',' :: (newline depth ++ text)) = .ok (some text) := by
  have hcomma : skipSpace (',' :: (newline depth ++ text)) = ',' :: (newline depth ++ text) := rfl
  have hskip : skipSpace (newline depth ++ text) = text := by
    rw [skipSpace_newline, skipSpace_of_begins h]
  rw [nextElement, hcomma]
  cases h <;> simp [hskip]

theorem nextElement_end (first : Bool) (depth : Nat) (rest : Text) :
    nextElement first (newline depth ++ ']' :: rest) = .ok none := by
  rw [nextElement, skipSpace_newline]
  rfl

/-- The items of an array as they stand in it after the first. -/
def itemsText (inner : Nat) (write : β → Text) (items : List β) : Text :=
  items.flatMap fun b => ',' :: newline inner ++ write b

/-- How an item is written and read back. -/
structure ReadsBack (item : Reader α) (write : β → Text) (read : β → Except ReadError α)
    (items : List β) : Prop where
  begins : ∀ b ∈ items, Begins (write b)
  item : ∀ b ∈ items, ∀ rest, item (write b ++ rest) = (read b).map (·, rest)

theorem ReadsBack.tail {b : β} (h : ReadsBack item write read (b :: items)) :
    ReadsBack item write read items :=
  ⟨fun b hb => h.begins b (by simp [hb]), fun b hb => h.item b (by simp [hb])⟩

/-- **Items** are read one after the other, up to the bracket. -/
theorem elements_items (h : ReadsBack item write read items) (inner outer : Nat) (rest : Text)
    {fuel : Nat} (hfuel : items.length < fuel) :
    elements item fuel false (itemsText inner write items ++ newline outer ++ ']' :: rest)
      = (items.mapM read).map (·, newline outer ++ ']' :: rest) := by
  induction items generalizing fuel with
  | nil =>
    obtain ⟨fuel, rfl⟩ : ∃ n, fuel = n + 1 := ⟨fuel - 1, by simp at hfuel; omega⟩
    rw [itemsText, List.flatMap_nil, List.nil_append, elements, nextElement_end]
    rfl
  | cons b more ih =>
    obtain ⟨fuel, rfl⟩ : ∃ n, fuel = n + 1 := ⟨fuel - 1, by simp at hfuel; omega⟩
    have hb := h.item b (by simp)
    have htext : itemsText inner write (b :: more) ++ newline outer ++ ']' :: rest
        = ',' :: (newline inner ++
          (write b ++ (itemsText inner write more ++ newline outer ++ ']' :: rest))) := by
      simp [itemsText]
    rw [htext, elements, nextElement_next ((h.begins b (by simp)).append _), ok_bind]
    dsimp only
    rw [hb, List.mapM_cons]
    cases read b with
    | error e => rfl
    | ok a =>
      simp only [Except.map, ok_bind]
      rw [ih h.tail (by simpa using hfuel)]
      cases more.mapM read with
      | error e => rfl
      | ok values => rfl

/-- The text of an array after its opening bracket. -/
def arrayText (outer : Nat) (write : β → Text) : List β → Text
  | [] => [']']
  | b :: more =>
    newline (outer + 1) ++ write b ++ itemsText (outer + 1) write more ++ newline outer ++ [']']

theorem length_le_itemsText (inner : Nat) (write : β → Text) (items : List β) :
    items.length ≤ (itemsText inner write items).length := by
  induction items with
  | nil => exact Nat.le_refl 0
  | cons b more ih =>
    simp only [itemsText, List.flatMap_cons, List.length_append, List.length_cons] at ih ⊢
    omega

theorem endArray_newline (depth : Nat) (rest : Text) :
    endArray (newline depth ++ ']' :: rest) = .ok rest := by
  rw [endArray, skipSpace_newline]
  rfl

theorem arrayText_map {γ : Type} (outer : Nat) (write : β → Text) (f : γ → β) (items : List γ) :
    arrayText outer write (items.map f) = arrayText outer (fun c => write (f c)) items := by
  cases items with
  | nil => rfl
  | cons c more => simp [arrayText, itemsText, List.flatMap_map]

/-- **An array** is read to its closing bracket. -/
theorem arrayRest_items (h : ReadsBack item write read items) (outer : Nat) (rest : Text) :
    arrayRest item (arrayText outer write items ++ rest) = (items.mapM read).map (·, rest) := by
  cases items with
  | nil => rfl
  | cons b more =>
    have hb := h.item b (by simp)
    have htext : arrayText outer write (b :: more) ++ rest = newline (outer + 1) ++
        (write b ++ (itemsText (outer + 1) write more ++ newline outer ++ ']' :: rest)) := by
      simp [arrayText]
    have hfuel : more.length < (newline (outer + 1) ++
        (write b ++ (itemsText (outer + 1) write more ++ newline outer ++ ']' :: rest))).length := by
      have := length_le_itemsText (outer + 1) write more
      simp only [List.length_append, List.length_cons]
      omega
    rw [arrayRest, htext, elements, nextElement_first ((h.begins b (by simp)).append _), ok_bind]
    dsimp only
    rw [hb, List.mapM_cons]
    cases read b with
    | error e => rfl
    | ok a =>
      simp only [Except.map, ok_bind]
      rw [elements_items h.tail (outer + 1) outer rest hfuel]
      cases more.mapM read with
      | error e => rfl
      | ok values =>
        simp only [Except.map, ok_bind, endArray_newline]
        rfl

end Items

/-! ## Fields -/

section Fields

variable {σ : Type} {field : Text → σ → Reader σ} {step : σ → Text × Json → Except ReadError σ}
  {fields : List (Text × Json)}

theorem nextKey_first (depth : Nat) (key text : Text) :
    nextKey true true (newline depth ++ (quoted key ++ text)) = .ok (some (key, text)) := by
  have hkey : ∀ body : Text, nextKey true true (newline depth ++ '"' :: body)
      = (stringRest true body).map some := by
    intro body
    rw [nextKey, skipSpace_newline]
    rfl
  rw [quoted_append, hkey, stringRest_escaped]
  rfl

theorem nextKey_next (depth : Nat) (key text : Text) :
    nextKey true false (',' :: (newline depth ++ (quoted key ++ text)))
      = .ok (some (key, text)) := by
  have hcomma : skipSpace (',' :: (newline depth ++ (quoted key ++ text)))
      = ',' :: (newline depth ++ (quoted key ++ text)) := rfl
  have hquote : ∀ body : Text, skipSpace ('"' :: body) = '"' :: body := fun _ => rfl
  rw [nextKey, hcomma]
  simp [quoted_append, hquote, stringRest_escaped, Except.map]

theorem nextKey_end (first : Bool) (depth : Nat) (rest : Text) :
    nextKey true first (newline depth ++ '\x7d' :: rest) = .ok none := by
  rw [nextKey, skipSpace_newline]
  rfl

/-- How the fields of an object are taken up, each by itself. -/
def TakesUp (inner : Nat) (field : Text → σ → Reader σ)
    (step : σ → Text × Json → Except ReadError σ) (fields : List (Text × Json)) : Prop :=
  ∀ entry ∈ fields, ∀ state rest,
    field entry.1 state (':' :: ' ' :: (layout inner entry.2 ++ rest))
      = (step state entry).map (·, rest)

theorem TakesUp.tail {inner : Nat} {entry : Text × Json}
    (h : TakesUp inner field step (entry :: fields)) : TakesUp inner field step fields :=
  fun entry hentry => h entry (by simp [hentry])

/-- **Fields** are taken up one after the other, up to the brace. -/
theorem fieldsFrom_fields {inner : Nat} (h : TakesUp inner field step fields) (outer : Nat)
    (state : σ) (rest : Text) {fuel : Nat} (hfuel : fields.length < fuel) :
    fieldsFrom true field fuel false state
        (layoutFields inner fields ++ newline outer ++ '\x7d' :: rest)
      = (fields.foldlM step state).map (·, newline outer ++ '\x7d' :: rest) := by
  induction fields generalizing fuel state with
  | nil =>
    obtain ⟨fuel, rfl⟩ : ∃ n, fuel = n + 1 := ⟨fuel - 1, by simp at hfuel; omega⟩
    rw [layoutFields, List.nil_append, fieldsFrom, nextKey_end]
    rfl
  | cons entry more ih =>
    obtain ⟨fuel, rfl⟩ : ∃ n, fuel = n + 1 := ⟨fuel - 1, by simp at hfuel; omega⟩
    obtain ⟨key, value⟩ := entry
    have hvalue := h (key, value) (by simp) state
    have htext : layoutFields inner ((key, value) :: more) ++ newline outer ++ '\x7d' :: rest
        = ',' :: (newline inner ++ (quoted key ++ ':' :: ' ' :: (layout inner value ++
          (layoutFields inner more ++ newline outer ++ '\x7d' :: rest)))) := by
      simp [layoutFields]
    rw [htext, fieldsFrom, nextKey_next, ok_bind]
    dsimp only at hvalue ⊢
    rw [hvalue, List.foldlM_cons]
    cases step state (key, value) with
    | error e => rfl
    | ok next =>
      simp only [Except.map, ok_bind]
      exact ih h.tail next (by simpa using hfuel)

/-- The text of an object after its opening brace. -/
def objectText (outer : Nat) : List (Text × Json) → Text
  | [] => ['\x7d']
  | (key, value) :: more =>
    newline (outer + 1) ++ quoted key ++ ':' :: ' ' :: layout (outer + 1) value ++
      layoutFields (outer + 1) more ++ newline outer ++ ['\x7d']

theorem length_le_layoutFields (inner : Nat) (fields : List (Text × Json)) :
    fields.length ≤ (layoutFields inner fields).length := by
  induction fields with
  | nil => exact Nat.le_refl 0
  | cons entry more ih =>
    simp only [layoutFields, List.length_append, List.length_cons]
    omega

/-- **An object** is read to its closing brace. -/
theorem objectRest_fields {outer : Nat} (h : TakesUp (outer + 1) field step fields) (state : σ)
    (rest : Text) :
    objectRest true field state (objectText outer fields ++ rest)
      = (fields.foldlM step state).map (·, rest) := by
  cases fields with
  | nil => rfl
  | cons entry more =>
    obtain ⟨key, value⟩ := entry
    have hvalue := h (key, value) (by simp) state
    have htext : objectText outer ((key, value) :: more) ++ rest
        = newline (outer + 1) ++ (quoted key ++ ':' :: ' ' :: (layout (outer + 1) value ++
          (layoutFields (outer + 1) more ++ newline outer ++ '\x7d' :: rest))) := by
      simp [objectText]
    have hfuel : more.length < (newline (outer + 1) ++ (quoted key ++ ':' :: ' ' ::
        (layout (outer + 1) value ++
          (layoutFields (outer + 1) more ++ newline outer ++ '\x7d' :: rest)))).length := by
      have := length_le_layoutFields (outer + 1) more
      simp only [List.length_append, List.length_cons]
      omega
    have hend : skipSpace (newline outer ++ '\x7d' :: rest) = '\x7d' :: rest :=
      skipSpace_newline _ _
    rw [objectRest, htext, fieldsFrom, nextKey_first, ok_bind]
    dsimp only at hvalue ⊢
    rw [hvalue, List.foldlM_cons]
    cases step state (key, value) with
    | error e => rfl
    | ok next =>
      simp only [Except.map, ok_bind]
      rw [fieldsFrom_fields h.tail outer next rest hfuel]
      cases more.foldlM step next with
      | error e => rfl
      | ok last =>
        simp only [Except.map, ok_bind, hend]

end Fields

/-! ## Values -/

theorem layout_array (depth : Nat) (items : List Json) :
    layout depth (.array items) = '[' :: arrayText depth (layout (depth + 1)) items := by
  have hitems : ∀ rest : List Json,
      layoutItems (depth + 1) rest = itemsText (depth + 1) (layout (depth + 1)) rest := by
    intro rest
    induction rest with
    | nil => rfl
    | cons item rest ih =>
      rw [layoutItems, ih]
      simp [itemsText]
  cases items with
  | nil => rfl
  | cons item rest => simp [layout, arrayText, hitems]

theorem layout_object (depth : Nat) (fields : List (Text × Json)) :
    layout depth (.object fields) = '\x7b' :: objectText depth fields := by
  cases fields with
  | nil => rfl
  | cons entry rest => simp [layout, objectText]

theorem itemsNesting_eq (items : List Json) :
    itemsNesting items = (items.map nesting).foldr max 0 := by
  induction items with
  | nil => rfl
  | cons item rest ih => rw [itemsNesting, ih, List.map_cons, List.foldr_cons]

theorem value_space (depth : Nat) (text : Text) :
    value true depth (' ' :: text) = value true depth text := by
  unfold value
  rw [skipSpace_space]

/-- The fields of an object that is read as a value, the latest first. -/
def takeField (depth : Nat) (before : List (Text × Json)) (entry : Text × Json) :
    Except ReadError (List (Text × Json)) :=
  within depth entry.2.nesting (entry :: before)

theorem foldlM_takeField (depth : Nat) (fields before : List (Text × Json)) :
    fields.foldlM (takeField depth) before
      = within depth (fieldsNesting fields) (fields.reverse ++ before) := by
  induction fields generalizing before with
  | nil => rfl
  | cons entry rest ih =>
    rw [List.foldlM_cons]
    simp only [ih, takeField]
    rw [within_bind, fieldsNesting]
    simp

theorem value_string (depth : Nat) (rest : Text) :
    value true depth ('"' :: rest)
      = (stringRest true rest).map fun (text, rest) => (.string text, rest) := by
  rw [value, skipSpace_of_begins (.string _)]
  rfl

theorem value_array (depth : Nat) (rest : Text) :
    value true depth ('[' :: rest) = match depth with
      | 0 => .error .malformed
      | depth + 1 =>
        (arrayRest (value true depth) rest).map fun (items, rest) => (.array items, rest) := by
  rw [value, skipSpace_of_begins (.array _)]
  rfl

/-- The reader of a field of an object that is read as a value. -/
def valueField (depth : Nat) (key : Text) (before : List (Text × Json)) (text : Text) :
    Except ReadError (List (Text × Json) × Text) := do
  let (found, rest) ← value true depth (← colon text)
  .ok ((key, found) :: before, rest)

theorem value_object (depth : Nat) (rest : Text) :
    value true depth ('\x7b' :: rest) = match depth with
      | 0 => .error .malformed
      | depth + 1 =>
        (objectRest true (valueField depth) [] rest).map fun (fields, rest) =>
          (.object fields.reverse, rest) := by
  rw [value, skipSpace_of_begins (.object _)]
  rfl

/-- **A value without numbers** that was laid out is read back, if it does not nest too deep; else
the text is malformed. -/
theorem value_layout {v : Json} (h : NumberFree v) (depth indent : Nat) (rest : Text) :
    value true depth (layout indent v ++ rest) = (within depth v.nesting v).map (·, rest) := by
  induction h generalizing depth indent rest with
  | null =>
    unfold value
    rfl
  | bool b =>
    unfold value
    cases b with
    | true => rfl
    | false => rfl
  | string text =>
    rw [layout, quoted_append, value_string, stringRest_escaped]
    rfl
  | @array items hitems ih =>
    rw [layout_array, List.cons_append, value_array, nesting]
    cases depth with
    | zero => rfl
    | succ depth =>
      have hback : ReadsBack (value true depth) (layout (indent + 1))
          (fun item => within depth item.nesting item) items :=
        ⟨fun item hitem => begins_layout (hitems item hitem) _,
          fun item hitem rest => ih item hitem depth (indent + 1) rest⟩
      dsimp only
      rw [arrayRest_items hback, mapM_within, ← itemsNesting_eq, List.map_id']
      simp only [map_within, within_succ]
  | @object fields hfields ih =>
    rw [layout_object, List.cons_append, value_object, nesting]
    cases depth with
    | zero => rfl
    | succ depth =>
      have htakes : TakesUp (indent + 1) (valueField depth) (takeField depth) fields := by
        intro entry hentry state rest
        have hcolon : colon (':' :: ' ' :: (layout (indent + 1) entry.2 ++ rest))
            = .ok (' ' :: (layout (indent + 1) entry.2 ++ rest)) := rfl
        rw [valueField, hcolon, ok_bind, value_space, ih entry hentry, takeField,
          map_within, map_within]
        exact within_bind_pure _ _
      -- the fields were collected with the latest first and are turned round in the end
      dsimp only
      rw [objectRest_fields htakes, foldlM_takeField]
      simp only [map_within, within_succ, List.append_nil, List.reverse_reverse]

end Rowwise.Json
