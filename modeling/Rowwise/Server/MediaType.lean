import Rowwise.Text.Basic

/-!
# Media types

The media type that a header names, with its parameters.

```text
type       := token '/' token? (';' ' '* parameter)* ';'? ' '*
parameter  := token '=' (token? | '"' any+ '"' ' '*)
```

The part of the subtype after its last `+` is its suffix. Case counts in values only.
-/

namespace Rowwise.Server

/-- A media type. -/
structure MediaType where
  type : Text
  subtype : Text
  suffix : Option Text
  parameters : List (Text × Text)
  deriving DecidableEq

namespace MediaType

/-- The characters of tokens. -/
def isTokenChar (c : Char) : Bool :=
  c.isAlphanum || "!#$%&'*+-.^_\x60|~".toList.contains c

/-- A subtype, divided at its last `+`, which is not its first character. -/
def splitSuffix (name : Text) : Text × Option Text :=
  let suffix := (name.reverse.takeWhile (· ≠ '+')).reverse
  let before := name.take (name.length - suffix.length - 1)
  if suffix.length < name.length && !before.isEmpty then (before, some suffix) else (name, none)

/-- The value of a parameter and what follows it: nothing, or more after a semicolon. -/
def value? (text : Text) : Option (Text × Option Text) :=
  let ending (value rest : Text) : Option (Text × Option Text) :=
    match rest with
    | [] => some (value, none)
    | ';' :: more => some (value, some more)
    | _ => none
  match text with
  | '"' :: first :: rest =>
    let value := first :: rest.takeWhile (· ≠ '"')
    match rest.dropWhile (· ≠ '"') with
    | '"' :: rest =>
      if value.all fun c => 0x1F < c.toNat ∧ c.toNat ≠ 0x7F then
        ending value (rest.dropWhile (· = ' '))
      else none
    | _ => none
  | _ =>
    let value := text.takeWhile isTokenChar
    match ending value (text.dropWhile isTokenChar) with
    | some (_, some _) => if value.isEmpty then none else ending value (text.dropWhile isTokenChar)
    | found => found

/-- The parameters in a text; `fuel` bounds their number. -/
def parameters? : (fuel : Nat) → Text → Option (List (Text × Text))
  | 0, _ => none
  | fuel + 1, text =>
    match text.dropWhile (· = ' ') with
    | [] => some []
    | text =>
      let name := text.takeWhile isTokenChar
      match name, text.dropWhile isTokenChar with
      | _ :: _, '=' :: rest => do
        let (value, rest) ← value? rest
        let more ← match rest with
          | some rest => parameters? fuel rest
          | none => some []
        some ((name.map Char.toLower, value) :: more)
      | _, _ => none

/-- The media type that a text names. -/
def ofText? (text : Text) : Option MediaType :=
  let type := text.takeWhile isTokenChar
  match type, text.dropWhile isTokenChar with
  | _ :: _, '/' :: rest => do
    let name := rest.takeWhile isTokenChar
    let parameters ← match name, rest.dropWhile isTokenChar with
      | _, [] => some []
      | _ :: _, ';' :: rest => parameters? (rest.length + 1) rest
      | _, _ => none
    let (subtype, suffix) := splitSuffix (name.map Char.toLower)
    some ⟨type.map Char.toLower, subtype, suffix, parameters⟩
  | _, _ => none

/-- Whether a media type is JSON, by its subtype or its suffix. -/
def isJson (media : MediaType) : Bool :=
  media.type = "application".toList &&
    (media.subtype = "json".toList || media.suffix = some "json".toList)

/-- The boundary between the parts of a form. -/
def boundary? (media : MediaType) : Option Text :=
  if media.type = "multipart".toList && media.subtype = "form-data".toList then
    media.parameters.lookup "boundary".toList
  else none

end MediaType

end Rowwise.Server
