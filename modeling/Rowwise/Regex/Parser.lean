import Rowwise.Number.Decimal
import Rowwise.Regex.Property
import Rowwise.Regex.Syntax
import Rowwise.Text.Hex
import Rowwise.Text.Search

/-!
# Reading regular expressions

The concrete syntax. With the flag `x`, white space and `#` comments between tokens are passed
over; the flag belongs to the group in which it is set. Every reader takes the text that follows
and returns what it read with the rest, or nothing if the text is malformed.
-/

namespace Rowwise.Regex

namespace Parser

/-! ### Blanks -/

/-- Passes over white space and comments; `comment` says that a comment has begun. -/
def skipBlank : (comment : Bool) → Text → Text
  | _, [] => []
  | true, c :: rest => skipBlank (c ≠ '\n') rest
  | false, c :: rest =>
    if Text.isSpace c then skipBlank false rest
    else if c = '#' then skipBlank true rest
    else c :: rest

/-- Passes over blanks if they do not count. -/
def skip (blanks : Bool) (text : Text) : Text :=
  if blanks then skipBlank false text else text

/-- The next character of a class after a hyphen, blanks and one comment sign passed over. -/
def peekAfterHyphen (blanks : Bool) (text : Text) : Option Char :=
  if blanks then
    match text.dropWhile Text.isSpace with
    | '#' :: rest => (rest.dropWhile Text.isSpace).head?
    | rest => rest.head?
  else text.head?

/-! ### Numbers -/

/-- The greatest repetition count. -/
def maxCount : Nat := 0xFFFFFFFF

/-- Digits with blanks between them; `fuel` bounds their number. -/
def digits (blanks : Bool) : (fuel : Nat) → Text → Text × Text
  | 0, text => ([], text)
  | fuel + 1, text =>
    match text with
    | c :: rest =>
      if c.isDigit then
        let (more, rest) := digits blanks fuel (skip blanks rest)
        (c :: more, rest)
      else ([], text)
    | [] => ([], [])

/-- A repetition count with white space around it; no digits are no count. -/
def count? (blanks : Bool) (text : Text) : Option (Option Nat × Text) :=
  let text := text.dropWhile Text.isSpace
  let (found, rest) := digits blanks text.length text
  let rest := skip blanks (rest.dropWhile Text.isSpace)
  let value := Number.readDigits 0 found
  if found = [] then some (none, rest)
  else if value ≤ maxCount then some (some value, rest)
  else none

/-- Whether the character is a hexadecimal digit. -/
def isHex (c : Char) : Bool :=
  (Hex.value? c).isSome

/-- The character with a hexadecimal code. -/
def hexChar? (digits : Text) : Option Char :=
  let code := Hex.number digits
  if digits ≠ [] ∧ code.isValidChar then some (Char.ofNat code) else none

/-- So many hexadecimal digits. -/
def hexDigits? (blanks : Bool) : (count : Nat) → Text → Option (Text × Text)
  | 0, text => some ([], skip blanks text)
  | count + 1, text =>
    match skip blanks text with
    | c :: rest =>
      if isHex c then (hexDigits? blanks count rest).map fun (more, rest) => (c :: more, rest)
      else none
    | [] => none

/-- The characters up to a closing brace, blanks left out; `fuel` bounds their number. -/
def braced? (blanks : Bool) : (fuel : Nat) → Text → Option (Text × Text)
  | 0, _ => none
  | fuel + 1, text =>
    match skip blanks text with
    | [] => none
    | c :: rest =>
      if c = '\x7d' then some ([], rest)
      else (braced? blanks fuel rest).map fun (more, rest) => (c :: more, rest)

/-! ### Escapes -/

/-- A hexadecimal escape of `width` digits, or in braces. -/
def hexEscape? (blanks : Bool) (width : Nat) (text : Text) : Option (Expr × Text) :=
  match skip blanks text with
  | [] => none
  | c :: rest =>
    if c = '\x7b' then do
      let (digits, rest) ← braced? blanks (rest.length + 1) rest
      if digits.all isHex then
        let char ← hexChar? digits
        some (.literal ⟨char, false⟩, rest)
      else none
    else do
      let (digits, rest) ← hexDigits? blanks width (c :: rest)
      let char ← hexChar? digits
      some (.literal ⟨char, width == 2⟩, rest)

/-- A property name between braces: alone, or with a value after `:`, `=` or `!=`. The flag says
that the value is excluded. -/
def propertyName (text : Text) : PropertyName × Bool :=
  match Text.indexOf? ['!', '='] text with
  | some i => (.valued (text.take i) (text.drop (i + 2)), true)
  | none =>
    match Text.indexOf? [':'] text <|> Text.indexOf? ['='] text with
    | some i => (.valued (text.take i) (text.drop (i + 1)), false)
    | none => (.named text, false)

/-- A property escape. -/
def property? (blanks negated : Bool) (text : Text) : Option (Expr × Text) :=
  match skip blanks text with
  | [] => none
  | c :: rest =>
    if c = '\x7b' then do
      let (name, rest) ← braced? blanks (rest.length + 1) rest
      let (name, excluded) := propertyName name
      some (.property name (negated != excluded), rest)
    else if c = '\\' then none
    else some (.property (.named [c]) negated, skip blanks rest)

/-- The special word boundaries, by name. -/
def boundaries : List (String × Assertion) :=
  [("start", .wordStart), ("end", .wordStop), ("start-half", .wordStartHalf),
   ("end-half", .wordStopHalf)]

/-- Whether the character can stand in the name of a special word boundary. -/
def isBoundaryChar (c : Char) : Bool :=
  c.isAlpha || c == '-'

/-- What follows `\b`: the name of a special boundary in braces, or anything else. -/
def boundary? (blanks : Bool) (text : Text) : Option (Expr × Text) :=
  match text with
  | c :: rest =>
    if c = '\x7b' then
      match skip blanks rest with
      | [] => none
      | c :: _ =>
        if isBoundaryChar c then do
          let (name, rest) ← braced? blanks (rest.length + 1) rest
          let kind ← boundaries.lookup (String.ofList name)
          some (.assertion kind, rest)
        else some (.assertion .boundary, text)
    else some (.assertion .boundary, text)
  | [] => some (.assertion .boundary, text)

/-- Letters that are escapes for control characters. -/
def controls : List (Char × Char) :=
  [('a', '\x07'), ('f', '\x0c'), ('t', '\t'), ('n', '\n'), ('r', '\r'), ('v', '\x0b')]

/-- What follows a backslash. -/
def escape? (blanks : Bool) (text : Text) : Option (Expr × Text) :=
  match text with
  | [] => none
  | c :: rest =>
    match c with
    | 'x' => hexEscape? blanks 2 rest
    | 'u' => hexEscape? blanks 4 rest
    | 'U' => hexEscape? blanks 8 rest
    | 'p' => property? blanks false rest
    | 'P' => property? blanks true rest
    | 'd' => some (.perl .digit false, rest)
    | 'D' => some (.perl .digit true, rest)
    | 's' => some (.perl .space false, rest)
    | 'S' => some (.perl .space true, rest)
    | 'w' => some (.perl .word false, rest)
    | 'W' => some (.perl .word true, rest)
    | 'A' => some (.assertion .start, rest)
    | 'z' => some (.assertion .stop, rest)
    | 'b' => boundary? blanks rest
    | 'B' => some (.assertion .notBoundary, rest)
    | '<' => some (.assertion .wordStart, rest)
    | '>' => some (.assertion .wordStop, rest)
    | _ =>
      match controls.lookup c with
      | some control => some (.literal ⟨control, false⟩, rest)
      | none =>
        if c.toNat < 0x80 && !c.isAlphanum then some (.literal ⟨c, false⟩, rest) else none

/-! ### Classes -/

/-- The named ASCII classes. -/
def asciiClasses : List (String × List (Nat × Nat)) :=
  [("alnum", [(0x30, 0x39), (0x41, 0x5A), (0x61, 0x7A)]),
   ("alpha", [(0x41, 0x5A), (0x61, 0x7A)]),
   ("ascii", [(0x00, 0x7F)]),
   ("blank", [(0x09, 0x09), (0x20, 0x20)]),
   ("cntrl", [(0x00, 0x1F), (0x7F, 0x7F)]),
   ("digit", [(0x30, 0x39)]),
   ("graph", [(0x21, 0x7E)]),
   ("lower", [(0x61, 0x7A)]),
   ("print", [(0x20, 0x7E)]),
   ("punct", [(0x21, 0x2F), (0x3A, 0x40), (0x5B, 0x60), (0x7B, 0x7E)]),
   ("space", [(0x09, 0x0D), (0x20, 0x20)]),
   ("upper", [(0x41, 0x5A)]),
   ("word", [(0x30, 0x39), (0x41, 0x5A), (0x5F, 0x5F), (0x61, 0x7A)]),
   ("xdigit", [(0x30, 0x39), (0x41, 0x46), (0x61, 0x66)])]

/-- The rest of a named ASCII class, after its opening bracket. -/
def asciiClass? (text : Text) : Option (ClassExpr × Text) :=
  match text with
  | ':' :: rest =>
    let (negated, rest) := match rest with
      | '^' :: rest => (true, rest)
      | _ => (false, rest)
    match rest.dropWhile (· ≠ ':') with
    | ':' :: ']' :: after =>
      (asciiClasses.lookup (String.ofList (rest.takeWhile (· ≠ ':')))).map fun ranges =>
        (.ascii ranges negated, after)
    | _ => none
  | _ => none

/-- An item of a class that is no range: an escape or any character. -/
def classItem? (blanks : Bool) (text : Text) : Option (ClassExpr × Text) :=
  match text with
  | '\\' :: rest =>
    match escape? blanks rest with
    | some (.literal literal, rest) => some (.literal literal, rest)
    | some (.perl kind negated, rest) => some (.perl kind negated, rest)
    | some (.property name negated, rest) => some (.property name negated, rest)
    | _ => none
  | c :: rest => some (.literal ⟨c, false⟩, rest)
  | [] => none

/-- An item of a class, or a range of characters. -/
def classRange? (blanks : Bool) (text : Text) : Option (ClassExpr × Text) := do
  let (item, rest) ← classItem? blanks text
  match skip blanks rest with
  | [] => none
  | '-' :: after =>
    let next := peekAfterHyphen blanks after
    if next = some ']' ∨ next = some '-' then some (item, '-' :: after)
    else
      match item, classItem? blanks (skip blanks after) with
      | .literal low, some (.literal high, rest) =>
        if low.char ≤ high.char then some (.range low high, rest) else none
      | _, _ => none
  | rest => some (item, rest)

/-- Hyphens at the start of a class stand for themselves. -/
def leadingHyphens (blanks : Bool) : (fuel : Nat) → Text → List ClassExpr × Text
  | 0, text => ([], text)
  | fuel + 1, text =>
    match text with
    | '-' :: rest =>
      let (items, rest) := leadingHyphens blanks fuel (skip blanks rest)
      (.literal ⟨'-', false⟩ :: items, rest)
    | _ => ([], text)

/-- The start of a class after its bracket: whether it is negated, and the hyphens or the bracket
that stand for themselves there, newest first. -/
def classOpen (blanks : Bool) (text : Text) : Bool × List ClassExpr × Text :=
  let text := skip blanks text
  let (negated, text) := match text with
    | '^' :: rest => (true, skip blanks rest)
    | _ => (false, text)
  let (items, text) := leadingHyphens blanks text.length text
  match items, text with
  | [], ']' :: rest => (negated, [.literal ⟨']', false⟩], skip blanks rest)
  | _, _ => (negated, items, text)

/-- The set of some items, newest first. -/
def unionOf (items : List ClassExpr) : ClassExpr :=
  match items with
  | [item] => item
  | _ => .union items.reverse

/-- A set operation that waits for its right side. -/
def combine (pending : Option (SetOp × ClassExpr)) (right : ClassExpr) : ClassExpr :=
  match pending with
  | some (op, left) => .binary op left right
  | none => right

/-- The operator that the text starts with. -/
def setOp? (text : Text) : Option (SetOp × Text) :=
  match text with
  | '&' :: '&' :: rest => some (.intersection, rest)
  | '-' :: '-' :: rest => some (.difference, rest)
  | '~' :: '~' :: rest => some (.symmetricDifference, rest)
  | _ => none

/-- The body of a class up to its closing bracket. `items`, newest first, stand before it, and
before those the operation that is `pending`. -/
def classBody? (blanks : Bool) : (fuel : Nat) → Option (SetOp × ClassExpr) → List ClassExpr →
    Text → Option (ClassExpr × Text)
  | 0, _, _, _ => none
  | fuel + 1, pending, items, text =>
    match skip blanks text with
    | [] => none
    | '[' :: rest =>
      match asciiClass? rest with
      | some (item, rest) => classBody? blanks fuel pending (item :: items) rest
      | none => do
        let (negated, first, rest) := classOpen blanks rest
        let (body, rest) ← classBody? blanks fuel none first rest
        classBody? blanks fuel pending (.bracket negated body :: items) rest
    | ']' :: rest => some (combine pending (unionOf items), rest)
    | text =>
      match setOp? text with
      | some (op, rest) =>
        classBody? blanks fuel (some (op, combine pending (unionOf items))) [] rest
      | none => do
        let (item, rest) ← classRange? blanks text
        classBody? blanks fuel pending (item :: items) rest

/-- A class after its opening bracket. -/
def bracket? (blanks : Bool) (text : Text) : Option (Expr × Text) := do
  let (negated, first, rest) := classOpen blanks text
  let (body, rest) ← classBody? blanks (text.length + 1) none first rest
  some (.bracket negated body, rest)

/-! ### Groups -/

/-- The letters of the flags. -/
def flagLetters : List (Char × Flag) :=
  [('i', .ignoreCase), ('m', .multiLine), ('s', .dotAll), ('U', .swapGreed), ('u', .unicode),
   ('R', .crlf), ('x', .ignoreSpace)]

/-- Flags up to `:` or `)`, which the rest starts with. A flag is given once at most, and so is
the minus sign, which has a flag after it. -/
def flags? (negated dangling : Bool) (items : List (Flag × Bool)) :
    Text → Option (List (Flag × Bool) × Text)
  | [] => none
  | c :: rest =>
    if c = ':' ∨ c = ')' then if dangling then none else some (items.reverse, c :: rest)
    else if c = '-' then if negated then none else flags? true true items rest
    else
      match flagLetters.lookup c with
      | some flag =>
        if items.any (·.1 == flag) then none
        else flags? negated false ((flag, !negated) :: items) rest
      | none => none

/-- Whether a character is a letter of any script. -/
def isLetter (c : Char) : Bool :=
  if c.toNat < 0x80 then c.isAlpha
  else (Property.entry propertyRanges "alphabetic").contains c

/-- Whether a character is a number of any script. -/
def isNumber (c : Char) : Bool :=
  if c.toNat < 0x80 then c.isDigit
  else (Property.entries categoryRanges ["nd", "nl", "no"]).contains c

/-- Whether a text can name a group. -/
def isGroupName (name : Text) : Bool :=
  match name with
  | [] => false
  | c :: rest =>
    (c == '_' || isLetter c) && rest.all fun c =>
      c == '_' || c == '.' || c == '[' || c == ']' || isLetter c || isNumber c

/-- What an opening parenthesis starts. -/
inductive GroupHead
  | flags (items : List (Flag × Bool))
  | named (name : Text)
  | plain
  | uncaptured (items : List (Flag × Bool))

/-- The name of a group up to `>`. -/
def groupName? (text : Text) : Option (GroupHead × Text) :=
  let name := text.takeWhile (· ≠ '>')
  match text.dropWhile (· ≠ '>') with
  | _ :: rest => if isGroupName name then some (.named name, rest) else none
  | [] => none

/-- What follows an opening parenthesis. Look-around is not supported. -/
def groupHead? (text : Text) : Option (GroupHead × Text) :=
  match text with
  | '?' :: '=' :: _ | '?' :: '!' :: _ | '?' :: '<' :: '=' :: _ | '?' :: '<' :: '!' :: _ => none
  | '?' :: 'P' :: '<' :: rest => groupName? rest
  | '?' :: '<' :: rest => groupName? rest
  | '?' :: rest => do
    let (items, rest) ← flags? false false [] rest
    match rest with
    | ')' :: rest => if items = [] then none else some (.flags items, rest)
    | _ :: rest => some (.uncaptured items, rest)
    | [] => none
  | _ => some (.plain, text)

/-! ### Expressions -/

/-- What the reader carries along: whether blanks are passed over, the number of capture groups
opened so far, and the named ones among them. -/
structure State where
  blanks : Bool
  groups : Nat
  names : List (Text × Nat)

namespace State

/-- The state after some flags. -/
def setFlags (state : State) (items : List (Flag × Bool)) : State :=
  match items.lookup .ignoreSpace with
  | some on => { state with blanks := on }
  | none => state

/-- One more capture group. -/
def addGroup (state : State) : State :=
  { state with groups := state.groups + 1 }

/-- One more capture group with a name that no other has. -/
def addName? (state : State) (name : Text) : Option State :=
  if state.names.any (·.1 == name) then none
  else some { state.addGroup with names := (name, state.groups + 1) :: state.names }

end State

/-- Some items in a row, newest first. -/
def sequence (items : List Expr) : Expr :=
  match items with
  | [] => .empty
  | [item] => item
  | _ => .concat items.reverse

/-- The alternatives `branches`, newest first, and after them the items. -/
def alternatives (branches : List Expr) (items : List Expr) : Expr :=
  match branches with
  | [] => sequence items
  | _ => .alternation (sequence items :: branches).reverse

/-- Repeats the newest item, unless there is none to repeat. -/
def repeat? (items : List Expr) (least : Nat) (most : Option Nat) (greedy : Bool) :
    Option (List Expr) :=
  match items with
  | [] | .flags _ :: _ => none
  | item :: before => some (.repetition least most greedy item :: before)

/-- A mark of laziness after a repetition. -/
def lazy (text : Text) : Bool × Text :=
  match text with
  | '?' :: rest => (true, rest)
  | _ => (false, text)

/-- The counts of a repetition after its opening brace, and the text after its closing one. -/
def counts? (blanks : Bool) (text : Text) : Option (Nat × Option Nat × Text) := do
  let (least, rest) ← count? blanks (skip blanks text)
  let least ← least
  match rest with
  | ',' :: rest =>
    match skip blanks rest with
    | '\x7d' :: rest => some (least, none, rest)
    | rest =>
      let (most, rest) ← count? blanks rest
      let most ← most
      match rest with
      | '\x7d' :: rest => if least ≤ most then some (least, some most, rest) else none
      | _ => none
  | '\x7d' :: rest => some (least, some least, rest)
  | _ => none

/-- One token that is no operator, class or group. -/
def primitive? (blanks : Bool) (c : Char) (rest : Text) : Option (Expr × Text) :=
  match c with
  | '\\' => escape? blanks rest
  | '.' => some (.dot, rest)
  | '^' => some (.assertion .caret, rest)
  | '$' => some (.assertion .dollar, rest)
  | _ => some (.literal ⟨c, false⟩, rest)

/-- Alternatives up to the end of the text or a closing parenthesis. `branches` and `items`,
newest first, stand before the text. -/
def expression? : (fuel : Nat) → State → (branches items : List Expr) → Text →
    Option (Expr × State × Text)
  | 0, _, _, _, _ => none
  | fuel + 1, state, branches, items, text =>
    match skip state.blanks text with
    | [] => some (alternatives branches items, state, [])
    | c :: rest =>
      match c with
      | ')' => some (alternatives branches items, state, c :: rest)
      | '|' => expression? fuel state (sequence items :: branches) [] rest
      | '(' => do
        let (head, rest) ← groupHead? (skip state.blanks rest)
        match head with
        | .flags flags =>
          expression? fuel (state.setFlags flags) branches (.flags flags :: items) rest
        | head =>
          let inner ← match head with
            | .named name => state.addName? name
            | .uncaptured flags => some (state.setFlags flags)
            | _ => some state.addGroup
          let (body, after, rest) ← expression? fuel inner [] [] rest
          let item := match head with
            | .uncaptured flags => .group flags body
            | _ => .capture inner.groups body
          match rest with
          | _ :: rest =>
            expression? fuel { after with blanks := state.blanks } branches (item :: items) rest
          | [] => none
      | '[' => do
        let (item, rest) ← bracket? state.blanks rest
        expression? fuel state branches (item :: items) rest
      | '?' => do
        let (lazily, rest) := lazy rest
        expression? fuel state branches (← repeat? items 0 (some 1) !lazily) rest
      | '*' => do
        let (lazily, rest) := lazy rest
        expression? fuel state branches (← repeat? items 0 none !lazily) rest
      | '+' => do
        let (lazily, rest) := lazy rest
        expression? fuel state branches (← repeat? items 1 none !lazily) rest
      | '\x7b' => do
        let (least, most, rest) ← counts? state.blanks rest
        let (lazily, rest) := lazy (skip state.blanks rest)
        expression? fuel state branches (← repeat? items least most !lazily) rest
      | c => do
        let (item, rest) ← primitive? state.blanks c rest
        expression? fuel state branches (item :: items) rest

end Parser

/-- What a text means as an expression: the tree, and the capture groups. -/
structure Parsed where
  expr : Expr
  groups : Nat
  names : List (Text × Nat)

/-- How deep an expression may nest. -/
def nestLimit : Nat := 250

/-- Reads an expression. -/
def parse? (text : Text) : Option Parsed :=
  match Parser.expression? (text.length + 1) ⟨false, 0, []⟩ [] [] text with
  | some (expr, state, []) =>
    if expr.depth ≤ nestLimit then some ⟨expr, state.groups, state.names⟩ else none
  | _ => none

end Rowwise.Regex
