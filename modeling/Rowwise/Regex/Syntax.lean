import Rowwise.Regex.CharSet

/-!
# Syntax of regular expressions

Two trees. `Expr` is what is written: flags, classes with set operations, literals that remember
how they were spelled. `Node` is what is meant: sets of characters, assertions, groups,
repetitions; flags are resolved and gone.
-/

namespace Rowwise.Regex

/-- A flag that can be set or cleared inside an expression. -/
inductive Flag
  | ignoreCase
  | multiLine
  | dotAll
  | swapGreed
  | unicode
  | crlf
  | ignoreSpace
  deriving DecidableEq

/-- An escape for a class of characters. -/
inductive PerlClass
  | digit
  | space
  | word
  deriving DecidableEq

/-- A condition on a position. -/
inductive Look
  | start
  | stop
  | lineStart
  | lineStop
  | crlfStart
  | crlfStop
  | word (unicode negated : Bool)
  | wordStart (unicode : Bool)
  | wordStop (unicode : Bool)
  | wordStartHalf (unicode : Bool)
  | wordStopHalf (unicode : Bool)
  deriving DecidableEq, Inhabited

/-- A condition on a position as written; flags decide what it means. -/
inductive Assertion
  | caret
  | dollar
  | start
  | stop
  | boundary
  | notBoundary
  | wordStart
  | wordStop
  | wordStartHalf
  | wordStopHalf
  deriving DecidableEq

/-- A character of an expression. `byte` tells a two-digit hexadecimal escape from all else. -/
structure Literal where
  char : Char
  byte : Bool
  deriving DecidableEq

/-- A Unicode property as written. -/
inductive PropertyName
  | named (name : Text)
  | valued (name value : Text)
  deriving DecidableEq

/-- How two sets are combined inside a bracketed class. -/
inductive SetOp
  | intersection
  | difference
  | symmetricDifference
  deriving DecidableEq

/-- What stands between brackets. -/
inductive ClassExpr
  | literal (literal : Literal)
  | range (low high : Literal)
  | ascii (ranges : List (Nat × Nat)) (negated : Bool)
  | perl (kind : PerlClass) (negated : Bool)
  | property (name : PropertyName) (negated : Bool)
  | union (items : List ClassExpr)
  | binary (op : SetOp) (left right : ClassExpr)
  | bracket (negated : Bool) (body : ClassExpr)

/-- A regular expression as written. -/
inductive Expr
  | empty
  | flags (items : List (Flag × Bool))
  | literal (literal : Literal)
  | dot
  | assertion (kind : Assertion)
  | perl (kind : PerlClass) (negated : Bool)
  | property (name : PropertyName) (negated : Bool)
  | bracket (negated : Bool) (body : ClassExpr)
  | repetition (min : Nat) (max : Option Nat) (greedy : Bool) (body : Expr)
  | capture (index : Nat) (body : Expr)
  | group (items : List (Flag × Bool)) (body : Expr)
  | concat (items : List Expr)
  | alternation (items : List Expr)

/-- A regular expression with all flags resolved. -/
inductive Node
  | empty
  | chars (set : CharSet)
  | look (kind : Look)
  | capture (index : Nat) (body : Node)
  | repetition (min : Nat) (max : Option Nat) (greedy : Bool) (body : Node)
  | concat (items : List Node)
  | alternation (items : List Node)

/-! ### Nesting -/

namespace ClassExpr

mutual

/-- How deep brackets, unions and set operations nest. -/
def depth : ClassExpr → Nat
  | .literal _ | .range .. | .ascii .. | .perl .. | .property .. => 0
  | .union items => depthAll items + 1
  | .binary _ left right => max (depth left) (depth right) + 1
  | .bracket _ body => depth body + 1

/-- How deep the deepest of some classes nests. -/
def depthAll : List ClassExpr → Nat
  | [] => 0
  | item :: rest => max (depth item) (depthAll rest)

end

end ClassExpr

namespace Expr

mutual

/-- How deep groups, repetitions, classes, sequences and alternations nest. -/
def depth : Expr → Nat
  | .empty | .flags _ | .literal _ | .dot | .assertion _ | .perl .. | .property .. => 0
  | .bracket _ body => body.depth + 1
  | .repetition _ _ _ body | .capture _ body | .group _ body => depth body + 1
  | .concat items | .alternation items => depthAll items + 1

/-- How deep the deepest of some expressions nests. -/
def depthAll : List Expr → Nat
  | [] => 0
  | item :: rest => max (depth item) (depthAll rest)

end

end Expr

namespace Node

mutual

/-- The least number of characters of a match. -/
def minLength : Node → Nat
  | .empty | .look _ => 0
  | .chars _ => 1
  | .capture _ body => minLength body
  | .repetition min _ _ body => min * minLength body
  | .concat items => minLengthAll items
  | .alternation items => minLengthAny items

/-- The least length of a match of some nodes in a row. -/
def minLengthAll : List Node → Nat
  | [] => 0
  | item :: rest => minLength item + minLengthAll rest

/-- The least length of a match of one of some nodes. -/
def minLengthAny : List Node → Nat
  | [] => 0
  | [item] => minLength item
  | item :: rest => min (minLength item) (minLengthAny rest)

end

mutual

/-- Whether only the empty text can match. -/
def onlyEmpty : Node → Bool
  | .empty | .look _ => true
  | .chars _ => false
  | .capture _ body => onlyEmpty body
  | .repetition _ max _ body => max == some 0 || onlyEmpty body
  | .concat items | .alternation items => onlyEmptyAll items

/-- Whether each item matches the empty text only. -/
def onlyEmptyAll : List Node → Bool
  | [] => true
  | item :: rest => onlyEmpty item && onlyEmptyAll rest

end

/-- A repetition in its simplest form: what only matches the empty text is repeated once at most,
and to repeat exactly once or never is not to repeat. -/
def repeated (least : Nat) (most : Option Nat) (greedy : Bool) (body : Node) : Node :=
  let (least, most) :=
    if body.onlyEmpty then (min least 1, some (min (most.getD 1) 1)) else (least, most)
  match least, most with
  | 0, some 0 => .empty
  | 1, some 1 => body
  | _, _ => .repetition least most greedy body

end Node

end Rowwise.Regex
