import Rowwise.Json.Reader
import Rowwise.Pattern.Program

/-!
# Programs as documents

A program is stored as JSON: an object with its `segments`, each of which is told from the others
by its `type`. Reading what was written gives the same program back, as long as the document does
not nest too deep to be read.

A segment is read whole before its fields are looked at, because the type may stand anywhere in
it. So what is wrong with the JSON of a segment goes before what is wrong with its shape.
-/

namespace Rowwise.Program

/-- The kinds of segments. -/
inductive Kind
  | literal
  | column
  | call

namespace Kind

/-- The names of the kinds in their order. -/
def names : List (Text × Kind) :=
  [("literal".toList, literal), ("variable".toList, column), ("call".toList, call)]

/-- The kind of a name. -/
def ofName? (name : Text) : Option Kind :=
  names.lookup name

/-- The kind that a value inside a segment gives, by its name or its number. -/
def ofJson? : Json → Option Kind
  | .string name => ofName? name
  | .integer 0 => some literal
  | .integer 1 => some column
  | .integer 2 => some call
  | _ => none

end Kind

/-! ### Writing -/

mutual

/-- A segment as a value. -/
def segmentJson : Segment → Json
  | .literal text =>
    .object [("type".toList, .ofString "literal"), ("text".toList, .string text)]
  | .column selector =>
    .object [("type".toList, .ofString "variable"), ("selector".toList, .string selector)]
  | .call name args =>
    .object [("type".toList, .ofString "call"), ("name".toList, .string name),
      ("args".toList, .array (argsJson args))]

/-- Call arguments as values. -/
def argsJson : List (List Segment) → List Json
  | [] => []
  | program :: more => .object [("segments".toList, .array (segmentsJson program))] :: argsJson more

/-- Segments as values. -/
def segmentsJson : List Segment → List Json
  | [] => []
  | segment :: rest => segmentJson segment :: segmentsJson rest

end

/-- A program as a value. -/
def toJson (program : Program) : Json :=
  .object [("segments".toList, .array (segmentsJson program))]

/-- A program as a document. -/
def document (program : Program) : Text :=
  (toJson program).pretty

/-! ### Reading values -/

/-- The value of a key that stands exactly once. -/
def single? (key : String) (fields : List (Text × Json)) : Option Json :=
  match fields.filter (·.1 == key.toList) with
  | [(_, value)] => some value
  | _ => none

/-- Whether a key does not stand at all. -/
def absent (key : String) (fields : List (Text × Json)) : Bool :=
  fields.all (·.1 != key.toList)

/-- The text of a string value. -/
def text? : Json → Option Text
  | .string text => some text
  | _ => none

/-- The items of an array value. -/
def items? : Json → Option (List Json)
  | .array items => some items
  | _ => none

/-- The segment of a kind with its other fields, `args` being read by `program?`. -/
def ofFields? (program? : Json → Option Program) (kind : Kind) (fields : List (Text × Json)) :
    Option Segment :=
  match kind with
  | .literal => ((single? "text" fields).bind text?).map .literal
  | .column => ((single? "selector" fields).bind text?).map .column
  | .call => do
    let name ← (single? "name" fields).bind text?
    if absent "args" fields then some (.call name [])
    else
      let args ← ((single? "args" fields).bind items?).bind (·.mapM program?)
      some (.call name args)

/-- The segment of a kind with the values of its fields in order. -/
def ofItems? (program? : Json → Option Program) (kind : Kind) (items : List Json) :
    Option Segment :=
  match kind, items with
  | .literal, [text] => (text? text).map .literal
  | .column, [selector] => (text? selector).map .column
  | .call, [name] => (text? name).map fun name => .call name []
  | .call, [name, args] => do
    let name ← text? name
    let args ← (items? args).bind (·.mapM program?)
    some (.call name args)
  | _, _ => none

mutual

/-- The program of a value; `fuel` bounds how deep it nests. -/
def ofJson? : (fuel : Nat) → Json → Option Program
  | 0, _ => none
  | fuel + 1, json =>
    match json with
    | .object fields =>
      ((single? "segments" fields).bind items?).bind (·.mapM (segmentOfJson? fuel))
    | .array [segments] => (items? segments).bind (·.mapM (segmentOfJson? fuel))
    | _ => none

/-- The segment of a value; `fuel` bounds how deep it nests. -/
def segmentOfJson? : (fuel : Nat) → Json → Option Segment
  | 0, _ => none
  | fuel + 1, json =>
    match json with
    | .object fields => do
      let kind ← (single? "type" fields).bind Kind.ofJson?
      ofFields? (ofJson? fuel) kind (fields.filter (·.1 != "type".toList))
    | .array (kind :: items) => do ofItems? (ofJson? fuel) (← Kind.ofJson? kind) items
    | _ => none

end

/-! ### Reading documents -/

open Json (ReadError Reader)

/-- The name of a kind. -/
def readKind (text : Text) : Except ReadError (Kind × Text) := do
  let (name, rest) ← Json.expectString text
  match Kind.ofName? name with
  | some kind => .ok (kind, rest)
  | none => .error .mismatch

/-- A segment that has been read whole. -/
def complete (segment : Option Segment) : Except ReadError Segment :=
  match segment with
  | some segment => .ok segment
  | none => .error .mismatch

/-- A segment of a document. -/
def readSegment (depth : Nat) (text : Text) : Except ReadError (Segment × Text) :=
  match Json.skipSpace text, depth with
  | '[' :: rest, depth + 1 => do
    match ← Json.nextElement true rest with
    | none => .error .mismatch
    | some text =>
      let (kind, rest) ← readKind text
      let (items, rest) ← Json.elements (Json.value true depth) (rest.length + 1) false rest
      let rest ← Json.endArray rest
      .ok (← complete (ofItems? (ofJson? Json.nestLimit) kind items), rest)
  | '\x7b' :: rest, depth + 1 => do
    let field (key : Text) (state : Option Kind × List (Text × Json)) (text : Text) :
        Except ReadError ((Option Kind × List (Text × Json)) × Text) := do
      if key = "type".toList then
        if state.1.isSome then .error .mismatch
        else
          let (kind, rest) ← readKind (← Json.colon text)
          .ok ((some kind, state.2), rest)
      else
        let (found, rest) ← Json.value true depth (← Json.colon text)
        .ok ((state.1, state.2 ++ [(key, found)]), rest)
    let ((kind, fields), rest) ← Json.objectRest true field (none, []) rest
    match kind with
    | none => .error .mismatch
    | some kind => .ok (← complete (ofFields? (ofJson? Json.nestLimit) kind fields), rest)
  | '[' :: _, 0 | '\x7b' :: _, 0 => .error .malformed
  | _, _ => .error (Json.unexpected text)

/-- How the fields of a program are read. -/
def recordReader : Json.RecordReader (Option Program) where
  names := ["segments".toList]
  has _ state := state.isSome
  field depth _ _ text :=
    (Json.expectArray depth readSegment text).map fun (segments, rest) => (some segments, rest)

/-- A program of a document. -/
def read (depth : Nat) (text : Text) : Except ReadError (Program × Text) :=
  recordReader.read none id depth text

/-- The program that a document holds. -/
def ofDocument (text : Text) : Except ReadError Program :=
  Json.document read text

end Rowwise.Program
