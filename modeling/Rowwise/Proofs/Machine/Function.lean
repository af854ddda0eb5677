import Mathlib.Data.List.Basic
import Rowwise.Proofs.Machine.Rewriting
import Rowwise.Proofs.Machine.Search

/-!
# Machine — Functions

The functions as a machine runs them: arguments are looked up by position, positions in texts are
words that are negative, extreme or made from a number that is far too large, and what a function
takes out of a text lies in a range that was computed. No call of a function of the table makes a
step that fails, and every call gives what the function gives (`call_eq`).
-/

namespace Rowwise.Machine

/-! ## Positions -/

/-- A negative index counts from the end. -/
def resolveIndex (index length : Int) : Checked Int :=
  if index < 0 then addSigned length index else .ok index

/-- The position that an index means in a list of some length. -/
def clampIndex (index : Int) (length : Nat) : Checked Nat := do
  let resolved ← resolveIndex index (toSigned length)
  let position ← clamp resolved 0 (toSigned length)
  .ok (toWord position)

theorem clampInteger_bounds (n : Int) :
    Binary64.minInteger ≤ Binary64.clampInteger n ∧
      Binary64.clampInteger n ≤ Binary64.maxInteger := by
  rw [Binary64.clampInteger, Binary64.minInteger, Binary64.maxInteger]
  omega

theorem clampInteger_le {m n : Int} (h : m ≤ n) :
    Binary64.clampInteger m ≤ Binary64.clampInteger n := by
  rw [Binary64.clampInteger, Binary64.clampInteger]
  omega

/-- The integer of an argument is a signed word. -/
theorem toInteger_bounds (arg : Text) :
    Binary64.minInteger ≤ Function.toInteger arg ∧
      Function.toInteger arg ≤ Binary64.maxInteger := by
  unfold Function.toInteger
  split
  · unfold Binary64.toInteger
    split
    · exact clampInteger_bounds _
    · decide
    · decide
  · decide

/-- **An index is clamped**: every signed word means a position. -/
theorem clampIndex_eq {index : Int} {length : Nat}
    (hindex : Binary64.minInteger ≤ index ∧ index ≤ Binary64.maxInteger)
    (hlength : length < lengthBound) :
    clampIndex index length = .ok (Function.position index length) := by
  have hresolved : resolveIndex index length
      = .ok (if index < 0 then length + index else index) := by
    rw [resolveIndex]
    split
    · refine addSigned_of_bounds ?_
      rw [lengthBound] at hlength
      rw [Binary64.minInteger, Binary64.maxInteger] at *
      omega
    · rfl
  rw [clampIndex, toSigned_of_lt hlength, hresolved, ok_bind,
    clamp_of_le (Int.natCast_nonneg length), ok_bind, toWord_clamp _ hlength, Function.position]

theorem position_le (index : Int) (length : Nat) : Function.position index length ≤ length :=
  Nat.min_le_right _ _

/-! ## Operations -/

/-- The operation of a function: it looks up its arguments itself. -/
abbrev Native := List Text → Draws → Checked (CallResult × Draws)

/-- An operation with one argument. -/
def unary (run : Text → Checked CallResult) : Native := fun args draws => do
  let result ← run (← item args 0)
  .ok (result, draws)

/-- An operation with two arguments. -/
def binary (run : Text → Text → Checked CallResult) : Native := fun args draws => do
  let result ← run (← item args 0) (← item args 1)
  .ok (result, draws)

/-- An operation with three arguments. -/
def ternary (run : Text → Text → Text → Checked CallResult) : Native := fun args draws => do
  let result ← run (← item args 0) (← item args 1) (← item args 2)
  .ok (result, draws)

/-- An operation with two arguments and a third one that may be missing. -/
def binaryOptional (run : Text → Text → Option Text → Checked CallResult) : Native :=
  fun args draws => do
    let result ← run (← item args 0) (← item args 1) args[2]?
    .ok (result, draws)

/-- A random identifier. -/
def guid : Native := fun _ draws =>
  let (text, draws) := draws.uuid
  .ok (.ok text, draws)

/-- The first position of a text in another. -/
def indexOf (text needle : Text) : Checked CallResult := do
  .ok (.ok (← positionText text (find? (Utf8.encode needle) (Utf8.encode text))))

/-- The last position of a text in another. -/
def lastIndexOf (text needle : Text) : Checked CallResult := do
  .ok (.ok (← positionText text (findLast? (Utf8.encode needle) (Utf8.encode text))))

/-- A whole number of an interval. -/
def drawInteger (least most : Int) (draws : Draws) : Checked (Int × Draws) :=
  if least ≤ most then .ok (draws.integer least most) else .error .emptyInterval

/-- A random integer between two numbers in either order. -/
def random : Native := fun args draws => do
  let a ← item args 0
  let b ← item args 1
  match Function.toNumber? a, Function.toNumber? b with
  | some x, some y =>
    let (low, high) := if x.le y then (x, y) else (y, x)
    match low.ceil?, high.floor? with
    | some least, some most =>
      if least ≤ most then
        let (n, draws) ←
          drawInteger (Binary64.clampInteger least) (Binary64.clampInteger most) draws
        .ok (.ok (Number.integerText n), draws)
      else .ok (.error (.noInteger x y), draws)
    | _, _ => .ok (.error (.noInteger x y), draws)
  | _, _ => .ok (.error (.notANumber a b), draws)

/-- The text with every match replaced by what a template stands for. -/
def replaceAll (regex : Regex) (text template : Text) : Text :=
  let (found, tail) := regex.findAll text
  (found.flatMap fun m => m.before ++ m.expand regex.names (Template.pieces template)) ++ tail

/-- All matches of an expression replaced. -/
def replace (text expression replacement : Text) : Checked CallResult :=
  match Regex.ofText? expression with
  | some regex => do .ok (.ok (replaceAll regex text (← braceNumbers replacement)))
  | none => .ok (.error (.badExpression expression))

/-- The characters from a start up to an end; none if that comes before. -/
def sliceRange (text : Text) (first last : Nat) : Checked Text :=
  if last ≤ first then .ok [] else extract text first last

/-- The characters from a start to an optional end. -/
def slice (text start : Text) (stop : Option Text) : Checked CallResult := do
  let first ← clampIndex (Function.toInteger start) text.length
  let last ← match stop with
    | some stop => clampIndex (Function.toInteger stop) text.length
    | none => .ok text.length
  .ok (.ok (← sliceRange text first last))

/-- So many characters from a start. -/
def substringRange (text : Text) (first count : Nat) : Checked Text := do
  let last ← add first count
  extract text first last

/-- The characters from a start, at most so many. -/
def substring (text start : Text) (length : Option Text) : Checked CallResult := do
  let first ← clampIndex (Function.toInteger start) text.length
  let available ← sub text.length first
  let count ← match length with
    | some length => do
      let count ← clamp (Function.toInteger length) 0 (toSigned available)
      .ok (toWord count)
    | none => .ok available
  .ok (.ok (← substringRange text first count))

/-- Percent escapes replaced, those of the `kept` characters apart. -/
def unescape (kept : List Char) (text : Text) : Checked CallResult := do
  match ← escapedBytes kept text with
  | .error fault => .ok (.error (.malformedEscape fault))
  | .ok bytes =>
    match Utf8.decode bytes with
    | .error fault => .ok (.error (.malformedEscape (.utf8 fault)))
    | .ok text => .ok (.ok text)

/-- The operations by the names of their functions. -/
def natives : List (Text × Native) :=
  [("backtick".toList, unary fun text => .ok (Function.wrap '\x60' text)),
   ("guid".toList, guid),
   ("indexOf".toList, binary indexOf),
   ("lastIndexOf".toList, binary lastIndexOf),
   ("lower".toList, unary fun text => .ok (.ok (Text.lower text))),
   ("quote".toList, unary fun text => .ok (Function.wrap '"' text)),
   ("random".toList, random),
   ("replace".toList, ternary replace),
   ("reverse".toList, unary fun text => .ok (.ok text.reverse)),
   ("single".toList, unary fun text => .ok (Function.wrap '\'' text)),
   ("slice".toList, binaryOptional slice),
   ("substring".toList, binaryOptional substring),
   ("title".toList, unary fun text => .ok (.ok (Text.title text))),
   ("trim".toList, unary fun text => .ok (.ok (Text.trim text))),
   ("trimLeft".toList, unary fun text => .ok (.ok (Text.trimLeft text))),
   ("trimRight".toList, unary fun text => .ok (.ok (Text.trimRight text))),
   ("upper".toList, unary fun text => .ok (.ok (Text.upper text))),
   ("urlDecode".toList, unary (unescape Percent.reserved)),
   ("urlDecodeComponent".toList, unary (unescape [])),
   ("urlEncode".toList, unary fun text => .ok (.ok (Percent.encode Percent.reserved text))),
   ("urlEncodeComponent".toList, unary fun text => .ok (.ok (Percent.encode [] text)))]

/-- Calls a function: the number of arguments is checked, then the operation runs. -/
def call (f : Function) (args : List Text) (draws : Draws) : Checked (CallResult × Draws) :=
  if f.arity.accepts args.length then
    match natives.lookup f.name with
    | some native => native args draws
    | none => .error .noOperation
  else .ok (.error (.arity f.name f.arity args.length), draws)

/-! ## Each operation -/

theorem indexOf_eq (text needle : Text) :
    indexOf text needle = .ok (.ok (Function.positionText (Text.indexOf? needle text))) := by
  rw [indexOf, find?_encode, positionText_eq fun _ => indexOf?_le]
  rfl

theorem lastIndexOf_eq (text needle : Text) :
    lastIndexOf text needle = .ok (.ok (Function.positionText (Text.lastIndexOf? needle text))) := by
  rw [lastIndexOf, findLast?_encode, positionText_eq fun _ => lastIndexOf?_le]
  rfl

/-- The interval is not empty: cut to words, its bounds keep their order. -/
theorem random_eq (a b : Text) (draws : Draws) :
    random [a, b] draws = .ok (Function.random a b draws) := by
  have ha : item [a, b] 0 = .ok a := rfl
  have hb : item [a, b] 1 = .ok b := rfl
  rw [random, ha, ok_bind, hb, ok_bind]
  unfold Function.random
  cases Function.toNumber? a with
  | none => rfl
  | some x =>
    cases Function.toNumber? b with
    | none => rfl
    | some y =>
      dsimp only
      generalize (if x.le y then (x, y) else (y, x)) = bounds
      cases bounds.1.ceil? with
      | none => rfl
      | some least =>
        cases bounds.2.floor? with
        | none => rfl
        | some most =>
          dsimp only
          by_cases hle : least ≤ most
          · have hdraw : drawInteger (Binary64.clampInteger least) (Binary64.clampInteger most)
                draws = .ok (draws.integer _ _) := if_pos (clampInteger_le hle)
            rw [if_pos hle, if_pos hle, hdraw]
            rfl
          · rw [if_neg hle, if_neg hle]

theorem replace_eq {text expression replacement : Text}
    (h : Text.utf8Size replacement < lengthBound) :
    replace text expression replacement = .ok (Function.replace text expression replacement) := by
  rw [replace, Function.replace, braceNumbers_eq h]
  cases Regex.ofText? expression <;> rfl

/-- Where the end comes before the start, nothing is taken; else the range is one of the text. -/
theorem sliceRange_eq {text : Text} {first last : Nat} (h : last ≤ text.length) :
    sliceRange text first last = .ok ((text.take last).drop first) := by
  rw [sliceRange]
  split
  · rename_i hle
    rw [List.drop_eq_nil_of_le (Nat.le_trans (List.length_take_le _ _) hle)]
  · rename_i hlt
    exact extract_of_le (by omega) h

theorem slice_eq {text start : Text} (stop : Option Text) (h : text.length < lengthBound) :
    slice text start stop = .ok (Function.slice text start stop) := by
  rw [slice, clampIndex_eq (toInteger_bounds start) h, ok_bind]
  unfold Function.slice
  cases stop with
  | none =>
    dsimp only
    rw [ok_bind, sliceRange_eq (Nat.le_refl _)]
    rfl
  | some stop =>
    dsimp only
    rw [clampIndex_eq (toInteger_bounds stop) h, ok_bind, sliceRange_eq (position_le _ _)]
    rfl

/-- The end of what is taken is in the text, since no more is taken than there is. -/
theorem substringRange_eq {text : Text} {first count : Nat} (h : text.length < lengthBound)
    (hcount : first + count ≤ text.length) :
    substringRange text first count = .ok ((text.drop first).take count) := by
  rw [substringRange, add_of_lt (by omega), ok_bind, extract_of_le (Nat.le_add_right _ _) hcount,
    List.drop_take, Nat.add_sub_cancel_left]

theorem substring_eq {text start : Text} (length : Option Text) (h : text.length < lengthBound) :
    substring text start length = .ok (Function.substring text start length) := by
  have hfirst := position_le (Function.toInteger start) text.length
  rw [substring, clampIndex_eq (toInteger_bounds start) h, ok_bind, sub_of_le hfirst, ok_bind]
  unfold Function.substring
  generalize Function.position (Function.toInteger start) text.length = first at hfirst
  have hlength : (text.drop first).length = text.length - first := List.length_drop
  cases length with
  | none =>
    dsimp only
    rw [ok_bind, substringRange_eq h (by omega), List.take_of_length_le (by omega)]
    rfl
  | some length =>
    dsimp only
    rw [toSigned_of_lt (by omega), clamp_of_le (by omega), ok_bind, ok_bind, toWord_clamp _ (by omega),
      substringRange_eq h (by omega), ← hlength, ← List.take_eq_take_min]
    rfl

theorem unescape_eq (kept : List Char) {text : Text} (h : Text.utf8Size text < lengthBound) :
    unescape kept text = .ok (Function.unescape kept text) := by
  rw [unescape, escapedBytes_eq h, ok_bind, Function.unescape, Percent.decode]
  cases Percent.bytes kept text with
  | error fault => rfl
  | ok bytes =>
    dsimp only
    cases Utf8.decode bytes <;> rfl

/-! ## Calls -/

/-- On short arguments that it accepts, an operation runs as a function has it. -/
def Runs (native : Native) (operation : Operation) : Prop :=
  ∀ name description args draws, operation.arity.accepts args.length →
    (∀ arg ∈ args, Text.utf8Size arg < lengthBound) →
      native args draws = .ok (Function.call ⟨name, description, operation⟩ args draws)

theorem runs_unary {run : Text → Checked CallResult} {operation : Text → CallResult}
    (h : ∀ a, Text.utf8Size a < lengthBound → run a = .ok (operation a)) :
    Runs (unary run) (.unary operation) := by
  intro name description args draws hargs hshort
  obtain ⟨a, rfl⟩ := List.length_eq_one_iff.mp (beq_iff_eq.mp hargs)
  have hrun := h a (hshort a (by simp))
  simp [unary, item, hrun, Function.call]

theorem runs_binary {run : Text → Text → Checked CallResult}
    {operation : Text → Text → CallResult} (h : ∀ a b, run a b = .ok (operation a b)) :
    Runs (binary run) (.binary operation) := by
  intro name description args draws hargs _
  obtain ⟨a, b, rfl⟩ := List.length_eq_two.mp (beq_iff_eq.mp hargs)
  simp [binary, item, h, Function.call]

theorem runs_random : Runs random (.binaryDrawn Function.random) := by
  intro name description args draws hargs _
  obtain ⟨a, b, rfl⟩ := List.length_eq_two.mp (beq_iff_eq.mp hargs)
  exact random_eq a b draws

theorem runs_guid : Runs guid (.drawn Draws.uuid) := by
  intro name description args draws hargs _
  obtain rfl := List.length_eq_zero_iff.mp (beq_iff_eq.mp hargs)
  rfl

theorem runs_replace : Runs (ternary replace) (.ternary Function.replace) := by
  intro name description args draws hargs hshort
  obtain ⟨a, b, c, rfl⟩ := List.length_eq_three.mp (beq_iff_eq.mp hargs)
  have hrun : replace a b c = .ok (Function.replace a b c) := replace_eq (hshort c (by simp))
  simp [ternary, item, hrun, Function.call]

theorem runs_binaryOptional {run : Text → Text → Option Text → Checked CallResult}
    {operation : Text → Text → Option Text → CallResult}
    (h : ∀ a b c, a.length < lengthBound → run a b c = .ok (operation a b c)) :
    Runs (binaryOptional run) (.binaryOptional operation) := by
  intro name description args draws hargs hshort
  have hcount : args.length = 2 ∨ args.length = 3 := by
    simp only [Operation.arity, Arity.accepts, Bool.and_eq_true, decide_eq_true_eq] at hargs
    omega
  have hlength : ∀ arg ∈ args, arg.length < lengthBound := fun arg harg =>
    Nat.lt_of_le_of_lt (length_le_utf8Size arg) (hshort arg harg)
  rcases hcount with htwo | hthree
  · obtain ⟨a, b, rfl⟩ := List.length_eq_two.mp htwo
    simp [binaryOptional, item, h a b none (hlength a (by simp)), Function.call]
  · obtain ⟨a, b, c, rfl⟩ := List.length_eq_three.mp hthree
    simp [binaryOptional, item, h a b (some c) (hlength a (by simp)), Function.call]

/-- **Every function of the table** has its operation. -/
theorem exists_runs : ∀ f ∈ Function.table,
    ∃ native, natives.lookup f.name = some native ∧ Runs native f.operation := by
  simp only [Function.table, List.forall_mem_cons]
  exact ⟨
    ⟨_, rfl, runs_unary fun _ _ => rfl⟩,
    ⟨_, rfl, runs_guid⟩,
    ⟨_, rfl, runs_binary indexOf_eq⟩,
    ⟨_, rfl, runs_binary lastIndexOf_eq⟩,
    ⟨_, rfl, runs_unary fun _ _ => rfl⟩,
    ⟨_, rfl, runs_unary fun _ _ => rfl⟩,
    ⟨_, rfl, runs_random⟩,
    ⟨_, rfl, runs_replace⟩,
    ⟨_, rfl, runs_unary fun _ _ => rfl⟩,
    ⟨_, rfl, runs_unary fun _ _ => rfl⟩,
    ⟨_, rfl, runs_binaryOptional fun _ _ stop h => slice_eq stop h⟩,
    ⟨_, rfl, runs_binaryOptional fun _ _ length h => substring_eq length h⟩,
    ⟨_, rfl, runs_unary fun _ _ => rfl⟩,
    ⟨_, rfl, runs_unary fun _ _ => rfl⟩,
    ⟨_, rfl, runs_unary fun _ _ => rfl⟩,
    ⟨_, rfl, runs_unary fun _ _ => rfl⟩,
    ⟨_, rfl, runs_unary fun _ _ => rfl⟩,
    ⟨_, rfl, runs_unary fun _ h => unescape_eq _ h⟩,
    ⟨_, rfl, runs_unary fun _ h => unescape_eq _ h⟩,
    ⟨_, rfl, runs_unary fun _ _ => rfl⟩,
    ⟨_, rfl, runs_unary fun _ _ => rfl⟩,
    fun _ hf => absurd hf List.not_mem_nil⟩

/-- A function that does not accept the number of its arguments says so. -/
theorem call_of_refused {f : Function} {args : List Text} (h : ¬ f.arity.accepts args.length)
    (draws : Draws) : f.call args draws = (.error (.arity f.name f.arity args.length), draws) := by
  unfold Function.call
  split
  case h_8 => rfl
  all_goals
    rename_i hoperation
    rw [Function.arity, hoperation] at h
    exact absurd rfl h

/-- **No call fails**: whatever the number of arguments, the function gives its value or its
error. -/
theorem call_eq {f : Function} (hf : f ∈ Function.table) {args : List Text}
    (hargs : ∀ arg ∈ args, Text.utf8Size arg < lengthBound) (draws : Draws) :
    call f args draws = .ok (f.call args draws) := by
  obtain ⟨native, hnative, hruns⟩ := exists_runs f hf
  rw [call, hnative]
  split
  · rename_i haccepts
    exact hruns f.name f.description args draws haccepts hargs
  · rename_i hrefuses
    rw [call_of_refused hrefuses]

end Rowwise.Machine
