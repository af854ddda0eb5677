import Rowwise.Json.Value
import Rowwise.Number.Binary64

/-!
# Reading JSON

Readers for JSON texts that are told what shape to expect. A reader takes the text that follows
and returns its value with the rest. It stops at the first thing that is wrong, and says of what
kind that is: no JSON, the end of the text, or JSON of another shape.

Arrays and objects nest up to a limit; `depth` is how many more may be opened.
-/

namespace Rowwise.Json

/-- Why a text cannot be read. -/
inductive ReadError
  /-- It is no JSON, or nests too deep. -/
  | malformed
  /-- It ends early. -/
  | truncated
  /-- It is JSON of another shape. -/
  | mismatch
  deriving DecidableEq

/-- A reader takes the text that follows; it gives a value and the text after it. -/
abbrev Reader (α : Type) := Text → Except ReadError (α × Text)

/-- How deep arrays and objects may nest. -/
def nestLimit : Nat := 127

/-- The text after white space. -/
def skipSpace (text : Text) : Text :=
  text.dropWhile fun c => c == ' ' || c == '\n' || c == '\t' || c == '\r'

/-- The text after a fixed word. -/
def word : (expected : Text) → Text → Except ReadError Text
  | [], text => .ok text
  | _ :: _, [] => .error .truncated
  | e :: expected, c :: text => if e = c then word expected text else .error .malformed

/-! ### Strings -/

/-- The value of four hexadecimal digits. -/
def hexValue? (a b c d : Char) : Option Nat :=
  match Hex.value? a, Hex.value? b, Hex.value? c, Hex.value? d with
  | some a, some b, some c, some d => some (((a * 16 + b) * 16 + c) * 16 + d)
  | _, _, _, _ => none

/-- Four hexadecimal digits. With less than four bytes left the text is truncated. -/
def hexCode (text : Text) : Except ReadError (Nat × Text) :=
  match text with
  | a :: b :: c :: d :: rest =>
    match hexValue? a b c d with
    | some code => .ok (code, rest)
    | none => .error .malformed
  | _ => .error (if Text.utf8Size text < 4 then .truncated else .malformed)

/-- Whether a code is the first half of a surrogate pair. -/
def isLeading (code : Nat) : Bool :=
  0xD800 ≤ code && code < 0xDC00

/-- Whether a code is the second half of a surrogate pair. -/
def isTrailing (code : Nat) : Bool :=
  0xDC00 ≤ code && code < 0xE000

/-- The text after `\u`, which follows the first half of a pair. -/
def secondEscape (text : Text) : Except ReadError Text :=
  match text with
  | [] => .error .truncated
  | '\\' :: rest =>
    match rest with
    | [] => .error .truncated
    | 'u' :: rest => .ok rest
    | _ => .error .malformed
  | _ => .error .malformed

/-- The character of an escape after `\u`. Halves of surrogate pairs come in pairs; if the string
is not `checked`, a half is accepted by itself. -/
def unicodeEscape (checked : Bool) (text : Text) : Except ReadError (Char × Text) := do
  let (code, rest) ← hexCode text
  if !checked then .ok (Char.ofNat code, rest)
  else if isTrailing code then .error .malformed
  else if isLeading code then
    let (second, rest) ← hexCode (← secondEscape rest)
    if isTrailing second then
      .ok (Char.ofNat (0x10000 + (code - 0xD800) * 0x400 + (second - 0xDC00)), rest)
    else .error .malformed
  else .ok (Char.ofNat code, rest)

/-- The letters of the short escapes. -/
def shortEscapes : List (Char × Char) :=
  [('"', '"'), ('\\', '\\'), ('/', '/'), ('b', '\x08'), ('f', '\x0c'), ('n', '\n'), ('r', '\r'),
   ('t', '\t')]

/-- The characters of a string after its opening quote; `fuel` bounds their number. -/
def stringBody (checked : Bool) : (fuel : Nat) → Reader Text
  | 0, _ => .error .truncated
  | fuel + 1, text =>
    match text with
    | [] => .error .truncated
    | '"' :: rest => .ok ([], rest)
    | '\\' :: 'u' :: rest => do
      let (c, rest) ← unicodeEscape checked rest
      let (more, rest) ← stringBody checked fuel rest
      .ok (c :: more, rest)
    | '\\' :: rest =>
      match rest with
      | [] => .error .truncated
      | letter :: rest =>
        match shortEscapes.lookup letter with
        | some c => do
          let (more, rest) ← stringBody checked fuel rest
          .ok (c :: more, rest)
        | none => .error .malformed
    | c :: rest =>
      if c.toNat < 0x20 then .error .malformed
      else do
        let (more, rest) ← stringBody checked fuel rest
        .ok (c :: more, rest)

/-- A string after its opening quote. -/
def stringRest (checked : Bool) (text : Text) : Except ReadError (Text × Text) :=
  stringBody checked (text.length + 1) text

/-! ### Numbers -/

/-- One digit or more. -/
def someDigits (text : Text) : Except ReadError (Text × Text) :=
  match text.takeWhile Char.isDigit, text with
  | [], [] => .error .truncated
  | [], _ => .error .malformed
  | digits, _ => .ok (digits, text.dropWhile Char.isDigit)

/-- The integer part of a number: no zero stands before another digit. -/
def wholeDigits (text : Text) : Except ReadError (Text × Text) := do
  let (digits, rest) ← someDigits text
  match digits with
  | '0' :: _ :: _ => .error .malformed
  | _ => .ok (digits, rest)

/-- The digits after a point, if there is one. -/
def fractionDigits (text : Text) : Except ReadError (Option Text × Text) :=
  match text with
  | '.' :: rest => do
    let (digits, rest) ← someDigits rest
    .ok (some digits, rest)
  | _ => .ok (none, text)

/-- The exponent, if there is one. -/
def exponentPart (text : Text) : Except ReadError (Option Int × Text) :=
  match text with
  | c :: rest =>
    if c = 'e' ∨ c = 'E' then do
      let (negative, rest) := Numeral.sign rest
      let (digits, rest) ← someDigits rest
      let value : Int := Number.readDigits 0 digits
      .ok (some (if negative then -value else value), rest)
    else .ok (none, text)
  | [] => .ok (none, text)

/-- A number. Unless it is not `checked`, it has to be finite in double precision. -/
def number (checked : Bool) (text : Text) : Except ReadError (Json × Text) := do
  let (negative, text) := match text with
    | '-' :: rest => (true, rest)
    | _ => (false, text)
  let (whole, rest) ← wholeDigits text
  let (fraction, rest) ← fractionDigits rest
  let (exponent, rest) ← exponentPart rest
  let digits := Number.readDigits (Number.readDigits 0 whole) (fraction.getD [])
  let power := exponent.getD 0 - (fraction.getD []).length
  let decimal : Decimal := ⟨negative, digits, power⟩
  match Binary64.ofDecimal decimal with
  | .infinite _ => if checked then .error .malformed else .ok (.decimal decimal, rest)
  | .finite .. =>
    if fraction.isNone && exponent.isNone && !(negative && digits == 0) then
      .ok (.integer (if negative then -digits else digits), rest)
    else .ok (.decimal decimal, rest)

/-! ### Arrays and objects -/

/-- The text of the next element, after the comma before it; nothing at the closing bracket. -/
def nextElement (first : Bool) (text : Text) : Except ReadError (Option Text) :=
  match skipSpace text with
  | [] => .error .truncated
  | ']' :: _ => .ok none
  | c :: rest =>
    if first then .ok (some (c :: rest))
    else if c = ',' then
      match skipSpace rest with
      | [] => .error .truncated
      | ']' :: _ => .error .malformed
      | rest => .ok (some rest)
    else .error .malformed

/-- The text after the closing bracket of an array. -/
def endArray (text : Text) : Except ReadError Text :=
  match skipSpace text with
  | [] => .error .truncated
  | ']' :: rest => .ok rest
  | _ => .error .malformed

/-- The elements of an array, up to its closing bracket; `fuel` bounds their number. -/
def elements {α : Type} (item : Reader α) :
    (fuel : Nat) → (first : Bool) → Reader (List α)
  | 0, _, _ => .error .truncated
  | fuel + 1, first, text => do
    match ← nextElement first text with
    | none => .ok ([], text)
    | some text =>
      let (value, rest) ← item text
      let (more, rest) ← elements item fuel false rest
      .ok (value :: more, rest)

/-- The rest of an array after its opening bracket. -/
def arrayRest {α : Type} (item : Reader α) (text : Text) :
    Except ReadError (List α × Text) := do
  let (values, rest) ← elements item (text.length + 1) true text
  .ok (values, ← endArray rest)

/-- The next key, and the text after it; nothing at the closing brace. -/
def nextKey (checked first : Bool) (text : Text) : Except ReadError (Option (Text × Text)) :=
  let key (text : Text) : Except ReadError (Option (Text × Text)) :=
    match text with
    | '"' :: rest => (stringRest checked rest).map some
    | _ => .error .malformed
  match skipSpace text with
  | [] => .error .truncated
  | '\x7d' :: _ => .ok none
  | c :: rest =>
    if first then key (c :: rest)
    else if c = ',' then
      match skipSpace rest with
      | [] => .error .truncated
      | rest => key rest
    else .error .malformed

/-- The text after the colon behind a key. -/
def colon (text : Text) : Except ReadError Text :=
  match skipSpace text with
  | [] => .error .truncated
  | ':' :: rest => .ok rest
  | _ => .error .malformed

/-- The fields of an object, up to its closing brace, each taken up by `field`, which is given the
key and the text after it. `fuel` bounds their number. -/
def fieldsFrom {σ : Type} (checked : Bool) (field : Text → σ → Reader σ) :
    (fuel : Nat) → (first : Bool) → σ → Reader σ
  | 0, _, _, _ => .error .truncated
  | fuel + 1, first, state, text => do
    match ← nextKey checked first text with
    | none => .ok (state, text)
    | some (key, rest) =>
      let (state, rest) ← field key state rest
      fieldsFrom checked field fuel false state rest

/-- The rest of an object after its opening brace. -/
def objectRest {σ : Type} (checked : Bool) (field : Text → σ → Reader σ) (state : σ)
    (text : Text) : Except ReadError (σ × Text) := do
  let (state, rest) ← fieldsFrom checked field (text.length + 1) true state text
  match skipSpace rest with
  | '\x7d' :: rest => .ok (state, rest)
  | _ => .error .truncated

/-! ### Any value -/

/-- A value of any shape. -/
def value (checked : Bool) : (depth : Nat) → Reader Json
  | depth, text =>
    match skipSpace text with
    | [] => .error .truncated
    | '"' :: rest => (stringRest checked rest).map fun (text, rest) => (.string text, rest)
    | '[' :: rest =>
      match depth with
      | 0 => .error .malformed
      | depth + 1 =>
        (arrayRest (value checked depth) rest).map fun (items, rest) => (.array items, rest)
    | c :: rest =>
      if c = '\x7b' then
        match depth with
        | 0 => .error .malformed
        | depth + 1 =>
          let field (key : Text) (before : List (Text × Json)) (text : Text) :
              Except ReadError (List (Text × Json) × Text) := do
            let (found, rest) ← value checked depth (← colon text)
            .ok ((key, found) :: before, rest)
          (objectRest checked field [] rest).map fun (fields, rest) =>
            (.object fields.reverse, rest)
      else if c = 'n' then (word "ull".toList rest).map (.null, ·)
      else if c = 't' then (word "rue".toList rest).map (.bool true, ·)
      else if c = 'f' then (word "alse".toList rest).map (.bool false, ·)
      else if c = '-' || c.isDigit then number checked (c :: rest)
      else .error .malformed

/-- The text after a value that does not count. It may nest to any depth, and neither the range of
its numbers nor its surrogates are looked at. -/
def skipValue (text : Text) : Except ReadError Text :=
  (value false (text.length + 1) text).map (·.2)

/-! ### Expected shapes -/

/-- What is wrong where a value of another shape was expected. -/
def unexpected (text : Text) : ReadError :=
  match skipSpace text with
  | '[' :: _ | '\x7b' :: _ => .mismatch
  | text =>
    match value true 0 text with
    | .ok _ => .mismatch
    | .error error => error

/-- A string. -/
def expectString (text : Text) : Except ReadError (Text × Text) :=
  match skipSpace text with
  | '"' :: rest => stringRest true rest
  | _ => .error (unexpected text)

/-- A truth value. -/
def expectBool (text : Text) : Except ReadError (Bool × Text) :=
  match value true 0 text with
  | .ok (.bool value, rest) => .ok (value, rest)
  | _ => .error (unexpected text)

/-- A natural number below a bound. -/
def expectNat (bound : Nat) (text : Text) : Except ReadError (Nat × Text) :=
  match value true 0 text with
  | .ok (.integer (.ofNat n), rest) => if n < bound then .ok (n, rest) else .error .mismatch
  | _ => .error (unexpected text)

/-- An array. -/
def expectArray {α : Type} (depth : Nat) (item : (depth : Nat) → Reader α)
    (text : Text) : Except ReadError (List α × Text) :=
  match skipSpace text with
  | '[' :: rest =>
    match depth with
    | 0 => .error .malformed
    | depth + 1 => arrayRest (item depth) rest
  | _ => .error (unexpected text)

/-- One of some names, alone or as the key of an object with the value `null`. -/
def expectName {α : Type} (depth : Nat) (ofName? : Text → Option α) (text : Text) :
    Except ReadError (α × Text) := do
  let named (text : Text) : Except ReadError (α × Text) := do
    let (name, rest) ← expectString text
    match ofName? name with
    | some value => .ok (value, rest)
    | none => .error .mismatch
  match skipSpace text with
  | [] => .error .truncated
  | '"' :: rest => named ('"' :: rest)
  | '\x7b' :: rest =>
    match depth with
    | 0 => .error .malformed
    | _ + 1 => do
      let (found, rest) ← named rest
      let text ← colon rest
      match value true 0 text with
      | .ok (.null, rest) =>
        match skipSpace rest with
        | [] => .error .truncated
        | '\x7d' :: rest => .ok (found, rest)
        | _ => .error .malformed
      | _ => .error (unexpected text)
  | _ => .error .malformed

/-- How the fields of a record are read. `field` reads the value of a field into the state; `has`
tells whether the state holds the field already. -/
structure RecordReader (σ : Type) where
  names : List Text
  has : Text → σ → Bool
  field : (depth : Nat) → Text → σ → Reader σ

namespace RecordReader

/-- Reads some fields in their order, as the elements of an array. -/
def positional {σ : Type} (reader : RecordReader σ) (depth : Nat) :
    (names : List Text) → (first : Bool) → σ → Reader σ
  | [], _, state, text => .ok (state, text)
  | name :: names, first, state, text => do
    match ← nextElement first text with
    | none => .ok (state, text)
    | some text =>
      let (state, rest) ← reader.field depth name state text
      positional reader depth names false state rest

/-- A record: an object, or an array of its fields in order. Unknown keys do not count; a known
key may stand once. What has to be there is checked by `finish`, before the closing bracket. -/
def read {σ α : Type} (reader : RecordReader σ) (init : σ) (finish : σ → Option α) (depth : Nat)
    (text : Text) : Except ReadError (α × Text) :=
  let finished (state : σ) : Except ReadError α :=
    match finish state with
    | some value => .ok value
    | none => .error .mismatch
  match skipSpace text, depth with
  | '[' :: rest, depth + 1 => do
    let (state, rest) ← reader.positional depth reader.names true init rest
    let value ← finished state
    .ok (value, ← endArray rest)
  | '\x7b' :: rest, depth + 1 => do
    let field (key : Text) (state : σ) (text : Text) : Except ReadError (σ × Text) :=
      if key ∈ reader.names then
        if reader.has key state then .error .mismatch
        else do reader.field depth key state (← colon text)
      else do .ok (state, ← skipValue (← colon text))
    let (state, rest) ← objectRest true field init rest
    .ok (← finished state, rest)
  | '[' :: _, 0 | '\x7b' :: _, 0 => .error .malformed
  | _, _ => .error (unexpected text)

end RecordReader

/-- Reads a whole document: nothing but white space stands after it. -/
def document {α : Type} (read : (depth : Nat) → Reader α) (text : Text) :
    Except ReadError α := do
  let (value, rest) ← read nestLimit text
  match skipSpace rest with
  | [] => .ok value
  | _ => .error .malformed

end Rowwise.Json
