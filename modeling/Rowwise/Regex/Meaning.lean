import Rowwise.Regex.Parser

/-!
# The meaning of regular expressions

Resolves flags, classes and properties of a written expression. Without the flag `u` only ASCII
can be matched by a class, so that every match is text.
-/

namespace Rowwise.Regex

/-- The flags in force. -/
structure Flags where
  ignoreCase : Bool
  multiLine : Bool
  dotAll : Bool
  swapGreed : Bool
  unicode : Bool
  crlf : Bool

namespace Flags

/-- The flags at the start. -/
def initial : Flags := ⟨false, false, false, false, true, false⟩

/-- The flags after one is set or cleared. -/
def set (flags : Flags) (item : Flag × Bool) : Flags :=
  match item.1 with
  | .ignoreCase => { flags with ignoreCase := item.2 }
  | .multiLine => { flags with multiLine := item.2 }
  | .dotAll => { flags with dotAll := item.2 }
  | .swapGreed => { flags with swapGreed := item.2 }
  | .unicode => { flags with unicode := item.2 }
  | .crlf => { flags with crlf := item.2 }
  | .ignoreSpace => flags

/-- The set closed under case, if case is ignored. -/
def fold (flags : Flags) (set : CharSet) : CharSet :=
  if flags.ignoreCase then if flags.unicode then set.foldCase else set.foldAscii else set

/-- The set or what is outside it, case being ignored or not. -/
def finish? (flags : Flags) (negated : Bool) (set : CharSet) : Option CharSet :=
  let folded := flags.fold set
  let result := if negated then folded.compl else folded
  if flags.unicode || result.isAscii then some result else none

end Flags

namespace PerlClass

/-- The characters of the class. -/
def set (unicode : Bool) : PerlClass → CharSet
  | digit => .ofRanges ((0x30, 0x39) :: if unicode then Text.digitRanges else [])
  | space =>
    .ofRanges ([(0x9, 0xD), (0x20, 0x20)] ++ if unicode then
      [(0x85, 0x85), (0xA0, 0xA0), (0x1680, 0x1680), (0x2000, 0x200A), (0x2028, 0x2029),
        (0x202F, 0x202F), (0x205F, 0x205F), (0x3000, 0x3000)] else [])
  | word =>
    .ofRanges ([(0x30, 0x39), (0x41, 0x5A), (0x5F, 0x5F), (0x61, 0x7A)] ++
      if unicode then Text.wordRanges else [])

end PerlClass

namespace Literal

/-- The code point that a literal adds to a class. -/
def code? (flags : Flags) (literal : Literal) : Option Nat :=
  if flags.unicode || literal.char.toNat < 0x80 then some literal.char.toNat else none

end Literal

namespace PropertyName

/-- The characters of a property. -/
def set? : PropertyName → Option CharSet
  | named name => Property.named? name
  | valued name value => Property.valued? name value

end PropertyName

/-- The characters of a class escape. -/
def perlSet? (flags : Flags) (kind : PerlClass) (negated : Bool) : Option CharSet :=
  { flags with ignoreCase := false }.finish? negated (kind.set flags.unicode)

/-- The characters of a property escape. -/
def propertySet? (flags : Flags) (name : PropertyName) (negated : Bool) : Option CharSet :=
  if flags.unicode then name.set?.bind (flags.finish? negated) else none

namespace SetOp

/-- The combined set. -/
def apply : SetOp → CharSet → CharSet → CharSet
  | intersection => .inter
  | difference => .diff
  | symmetricDifference => .symmDiff

end SetOp

namespace ClassExpr

mutual

/-- The characters of a class. -/
def set? (flags : Flags) : ClassExpr → Option CharSet
  | .literal written => (written.code? flags).map fun code => ⟨[(code, code)]⟩
  | .range low high => do
    let low ← low.code? flags
    let high ← high.code? flags
    some ⟨[(low, high)]⟩
  | .ascii ranges negated => flags.finish? negated (.ofRanges ranges)
  | .perl kind negated => perlSet? flags kind negated
  | .property name negated => propertySet? flags name negated
  | .union items => unionSet? flags items
  | .binary op left right => do
    let left ← set? flags left
    let right ← set? flags right
    some (op.apply (flags.fold left) (flags.fold right))
  | .bracket negated body => (set? flags body).bind (flags.finish? negated)

/-- The characters of some items together. -/
def unionSet? (flags : Flags) : List ClassExpr → Option CharSet
  | [] => some .empty
  | item :: rest => do
    let first ← set? flags item
    let others ← unionSet? flags rest
    some (first.union others)

end

end ClassExpr

namespace Assertion

/-- The condition that an assertion stands for. -/
def look (flags : Flags) : Assertion → Look
  | caret => if flags.multiLine then if flags.crlf then .crlfStart else .lineStart else .start
  | dollar => if flags.multiLine then if flags.crlf then .crlfStop else .lineStop else .stop
  | start => .start
  | stop => .stop
  | boundary => .word flags.unicode false
  | notBoundary => .word flags.unicode true
  | wordStart => .wordStart flags.unicode
  | wordStop => .wordStop flags.unicode
  | wordStartHalf => .wordStartHalf flags.unicode
  | wordStopHalf => .wordStopHalf flags.unicode

end Assertion

namespace Expr

/-- The characters that a dot matches. -/
def dotSet? (flags : Flags) : Option CharSet :=
  if !flags.unicode then none
  else if flags.dotAll then some .all
  else if flags.crlf then some (CharSet.compl ⟨[(0xA, 0xA), (0xD, 0xD)]⟩)
  else some (CharSet.compl ⟨[(0xA, 0xA)]⟩)

/-- The characters that a literal matches. -/
def literalSet? (flags : Flags) (literal : Literal) : Option CharSet :=
  if !flags.unicode && literal.byte && literal.char.toNat ≥ 0x80 then none
  else some (flags.fold (.single literal.char))

mutual

/-- The meaning of an expression, and the flags in force after it. -/
def meaning? (flags : Flags) : Expr → Option (Node × Flags)
  | .empty => some (.empty, flags)
  | .flags items => some (.empty, items.foldl Flags.set flags)
  | .literal written => (literalSet? flags written).map fun set => (.chars set, flags)
  | .dot => (dotSet? flags).map fun set => (.chars set, flags)
  | .assertion kind => some (.look (kind.look flags), flags)
  | .perl kind negated => (perlSet? flags kind negated).map fun set => (.chars set, flags)
  | .property name negated => (propertySet? flags name negated).map fun set => (.chars set, flags)
  | .bracket negated body =>
    ((body.set? flags).bind (flags.finish? negated)).map fun set => (.chars set, flags)
  | .repetition least most greedy body => do
    let (node, after) ← meaning? flags body
    some (node.repeated least most (greedy != flags.swapGreed), after)
  | .capture index body => do
    let (node, _) ← meaning? flags body
    some (.capture index node, flags)
  | .group items body => do
    let (node, _) ← meaning? (items.foldl Flags.set flags) body
    some (node, flags)
  | .concat items => do
    let (nodes, after) ← meanings? flags items
    some (.concat nodes, after)
  | .alternation items => do
    let (nodes, after) ← meanings? flags items
    some (.alternation nodes, after)

/-- The meanings of expressions in a row; each sets flags for those after it. -/
def meanings? (flags : Flags) : List Expr → Option (List Node × Flags)
  | [] => some ([], flags)
  | item :: rest => do
    let (node, after) ← meaning? flags item
    let (nodes, after) ← meanings? after rest
    some (node :: nodes, after)

end

end Expr

end Rowwise.Regex
