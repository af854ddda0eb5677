import Rowwise.Number.Shortest
import Rowwise.Pattern.Draws
import Rowwise.Regex.Replacement
import Rowwise.Text.Percent
import Rowwise.Text.Search
import Rowwise.Text.Word

/-!
# Pattern functions

The functions that a pattern can call. Each takes rendered arguments and gives a text or an
error. How many arguments it takes, and whether it draws random numbers, is part of the shape of
its operation.
-/

namespace Rowwise

/-- How many arguments a function takes. -/
inductive Arity
  | exactly (count : Nat)
  | between (least most : Nat)
  deriving DecidableEq

namespace Arity

/-- Whether so many arguments are accepted. -/
def accepts : Arity → Nat → Bool
  | exactly n, count => count == n
  | between least most, count => least ≤ count && count ≤ most

/-- The least number of arguments. -/
def least : Arity → Nat
  | exactly n => n
  | between n _ => n

/-- The greatest number of arguments. -/
def most : Arity → Nat
  | exactly n => n
  | between _ n => n

/-- Whether no argument is taken at all. -/
def isNullary (arity : Arity) : Bool :=
  arity == exactly 0

/-- The arity as it is shown to users. -/
def text : Arity → String
  | exactly n => toString n
  | between least most => toString least ++ "-" ++ toString most

end Arity

/-- Why a function has no value. -/
inductive CallError
  /-- The number of arguments is not accepted. -/
  | arity (name : Text) (expected : Arity) (got : Nat)
  /-- One of the bounds is no number. -/
  | notANumber (low high : Text)
  /-- There is no integer between the bounds, in the order in which they were given. -/
  | noInteger (low high : Binary64)
  /-- The expression cannot be read or is too large. -/
  | badExpression (expression : Text)
  /-- A percent escape is malformed, or the bytes are no text. -/
  | malformedEscape (fault : Percent.Fault)

namespace CallError

/-- The message for the user. -/
def message : CallError → String
  | arity name expected got =>
    String.ofList name ++ " expects " ++ expected.text ++ " argument(s), got " ++ toString got
  | notANumber low high =>
    "Invalid argument for random: '" ++ String.ofList low ++ "' or '" ++ String.ofList high ++
      "' is not a number"
  | noInteger low high =>
    "Invalid argument for random: no integer between " ++ String.ofList low.toText ++ " and " ++
      String.ofList high.toText
  | badExpression expression =>
    "Invalid argument for replace: no valid expression: " ++ String.ofList expression
  | malformedEscape fault => "Malformed escape sequence: " ++ fault.message

end CallError

/-- The outcome of a call. -/
abbrev CallResult := Except CallError Text

/-- What a function does, by the number of its arguments. The operations that draw random
numbers take a stream of draws and return what is left of it. -/
inductive Operation
  | drawn (run : Draws → Text × Draws)
  | unary (run : Text → CallResult)
  | binary (run : Text → Text → CallResult)
  | binaryDrawn (run : Text → Text → Draws → CallResult × Draws)
  | ternary (run : Text → Text → Text → CallResult)
  | binaryOptional (run : Text → Text → Option Text → CallResult)

namespace Operation

/-- How many arguments the operation takes. -/
def arity : Operation → Arity
  | drawn _ => .exactly 0
  | unary _ => .exactly 1
  | binary _ | binaryDrawn _ => .exactly 2
  | ternary _ => .exactly 3
  | binaryOptional _ => .between 2 3

/-- Whether the operation uses no random draws. -/
def isDeterministic : Operation → Bool
  | drawn _ | binaryDrawn _ => false
  | _ => true

end Operation

/-- A function that patterns can call. -/
structure Function where
  name : Text
  description : String
  operation : Operation

namespace Function

/-- How many arguments the function takes. -/
def arity (f : Function) : Arity :=
  f.operation.arity

/-- Whether the function gives the same value for the same arguments. -/
def isDeterministic (f : Function) : Bool :=
  f.operation.isDeterministic

/-- Calls the function. -/
def call (f : Function) (args : List Text) (draws : Draws) : CallResult × Draws :=
  match f.operation, args with
  | .drawn run, [] => let (text, draws) := run draws; (.ok text, draws)
  | .unary run, [a] => (run a, draws)
  | .binary run, [a, b] => (run a b, draws)
  | .binaryDrawn run, [a, b] => run a b draws
  | .ternary run, [a, b, c] => (run a b c, draws)
  | .binaryOptional run, [a, b] => (run a b none, draws)
  | .binaryOptional run, [a, b, c] => (run a b (some c), draws)
  | _, _ => (.error (.arity f.name f.arity args.length), draws)

/-! ### Arguments -/

/-- The number that an argument writes; a blank one is zero. -/
def toNumber? (arg : Text) : Option Binary64 :=
  let trimmed := Text.trim arg
  if trimmed = [] then some .zero else Binary64.ofText? trimmed

/-- The integer that an argument writes, without its fraction; zero if it is no number. -/
def toInteger (arg : Text) : Int :=
  match toNumber? arg with
  | some number => number.toInteger
  | none => 0

/-- The position that an index means in a text of some length. A negative index counts from the
end; what lies outside is moved to the nearer end. -/
def position (index : Int) (length : Nat) : Nat :=
  let resolved := if index < 0 then length + index else index
  min resolved.toNat length

/-! ### Operations -/

/-- The text between two marks. -/
def wrap (mark : Char) (text : Text) : CallResult :=
  .ok (mark :: text ++ [mark])

/-- A position in decimal, `-1` for none. -/
def positionText : Option Nat → Text
  | some position => Number.digitsText position
  | none => ['-', '1']

/-- A random integer between two numbers in either order. -/
def random (a b : Text) (draws : Draws) : CallResult × Draws :=
  match toNumber? a, toNumber? b with
  | some x, some y =>
    let (low, high) := if x.le y then (x, y) else (y, x)
    match low.ceil?, high.floor? with
    | some least, some most =>
      if least ≤ most then
        let (n, draws) :=
          draws.integer (Binary64.clampInteger least) (Binary64.clampInteger most)
        (.ok (Number.integerText n), draws)
      else (.error (.noInteger x y), draws)
    | _, _ => (.error (.noInteger x y), draws)
  | _, _ => (.error (.notANumber a b), draws)

/-- All matches of an expression replaced. -/
def replace (text expression replacement : Text) : CallResult :=
  match Regex.ofText? expression with
  | some regex => .ok (regex.replaceAll text replacement)
  | none => .error (.badExpression expression)

/-- The characters from a start to an optional end. -/
def slice (text start : Text) (stop : Option Text) : CallResult :=
  let first := position (toInteger start) text.length
  let last := match stop with
    | some stop => position (toInteger stop) text.length
    | none => text.length
  .ok ((text.take last).drop first)

/-- The characters from a start, at most so many. -/
def substring (text start : Text) (length : Option Text) : CallResult :=
  let rest := text.drop (position (toInteger start) text.length)
  .ok (match length with
    | some length => rest.take (toInteger length).toNat
    | none => rest)

/-- Percent escapes replaced, those of the `kept` characters apart. -/
def unescape (kept : List Char) (text : Text) : CallResult :=
  match Percent.decode kept text with
  | .ok text => .ok text
  | .error fault => .error (.malformedEscape fault)

/-! ### The table -/

/-- All functions in the order of their names. -/
def table : List Function :=
  [⟨"backtick".toList, "Wrap in backticks", .unary (wrap '\x60')⟩,
   ⟨"guid".toList, "Random version-4 UUID", .drawn Draws.uuid⟩,
   ⟨"indexOf".toList, "First position of a substring, -1 if absent",
    .binary fun text needle => .ok (positionText (Text.indexOf? needle text))⟩,
   ⟨"lastIndexOf".toList, "Last position of a substring, -1 if absent",
    .binary fun text needle => .ok (positionText (Text.lastIndexOf? needle text))⟩,
   ⟨"lower".toList, "Convert to lowercase", .unary fun text => .ok (Text.lower text)⟩,
   ⟨"quote".toList, "Wrap in double quotes", .unary (wrap '"')⟩,
   ⟨"random".toList, "Random integer in [ceil(min), floor(max)]", .binaryDrawn random⟩,
   ⟨"replace".toList,
    "Replace all regex matches of arg 2 with arg 3 ($1, $\x7bname\x7d refer to groups)",
    .ternary replace⟩,
   ⟨"reverse".toList, "Reverse character order", .unary fun text => .ok text.reverse⟩,
   ⟨"single".toList, "Wrap in single quotes", .unary (wrap '\'')⟩,
   ⟨"slice".toList, "Characters from start to optional end (negative counts from end)",
    .binaryOptional slice⟩,
   ⟨"substring".toList, "Characters from start, optional length", .binaryOptional substring⟩,
   ⟨"title".toList, "Capitalize each word, lowercase the rest",
    .unary fun text => .ok (Text.title text)⟩,
   ⟨"trim".toList, "Remove leading and trailing whitespace",
    .unary fun text => .ok (Text.trim text)⟩,
   ⟨"trimLeft".toList, "Remove leading whitespace", .unary fun text => .ok (Text.trimLeft text)⟩,
   ⟨"trimRight".toList, "Remove trailing whitespace",
    .unary fun text => .ok (Text.trimRight text)⟩,
   ⟨"upper".toList, "Convert to uppercase", .unary fun text => .ok (Text.upper text)⟩,
   ⟨"urlDecode".toList, "Decode a percent-encoded URI", .unary (unescape Percent.reserved)⟩,
   ⟨"urlDecodeComponent".toList, "Decode a percent-encoded URI component", .unary (unescape [])⟩,
   ⟨"urlEncode".toList, "Percent-encode a URI",
    .unary fun text => .ok (Percent.encode Percent.reserved text)⟩,
   ⟨"urlEncodeComponent".toList, "Percent-encode a URI component",
    .unary fun text => .ok (Percent.encode [] text)⟩]

/-- The function of a name; case counts. -/
def lookup? (name : Text) : Option Function :=
  table.find? (·.name == name)

/-- A line of the help table. -/
def helpLine (f : Function) : String :=
  "| " ++ String.ofList f.name ++ " | " ++ f.arity.text ++ " | " ++ f.description ++ " |\n"

/-- The help for users: a table of all functions, and the syntax of patterns. -/
def help : String :=
  "Available pattern functions:\n\n" ++
  "| Function | Arguments | Description |\n" ++
  "|----------|-----------|-------------|\n" ++
  String.join (table.map helpLine) ++
  "\nSyntax:\n" ++
  "  $(0), $(-1)       column by zero-based index\n" ++
  "  $(name)           column by header name (case-insensitive)\n" ++
  "  @upper($(name))   function call; arguments may nest\n" ++
  "  @replace($(0),-,)  arguments split on top-level commas only\n" ++
  "\nUnresolved columns and unknown functions render as ERR."

end Function

end Rowwise
