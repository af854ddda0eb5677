import Rowwise.Pattern.Program

/-!
# Compiling patterns

```text
pattern  := (literal | column | call)*
column   := '$(' selector ')'
call     := '@' name '(' pattern (',' pattern)* ')'
```

Compilation never fails. What opens no construct is literal text, and a construct whose
parenthesis is never closed extends to the end; where it was opened is reported as a byte position.
-/

namespace Rowwise

/-- A parenthesis group of a pattern: the pieces between its opening and its closing
parenthesis, and the text after it. -/
structure Group where
  first : Text
  more : List Text
  rest : Text
  closed : Bool

namespace Group

/-- All pieces; there is at least one. -/
def pieces (group : Group) : List Text :=
  group.first :: group.more

/-- What was read after the opening parenthesis, with the closing one if there is one. -/
def source (group : Group) : Text :=
  Text.join [','] group.pieces ++ if group.closed then [')'] else []

/-- One more character at the front of the first piece. -/
def push (c : Char) (group : Group) : Group :=
  { group with first := c :: group.first }

/-- One more piece at the front, still empty. -/
def part (group : Group) : Group :=
  { group with first := [], more := group.first :: group.more }

/-- The group that the text goes on with, when `depth` parentheses are open inside it. With
`split`, commas outside those part the pieces. -/
def scan (split : Bool) : (depth : Nat) → Text → Group
  | _, [] => ⟨[], [], [], false⟩
  | depth, '(' :: text => push '(' (scan split (depth + 1) text)
  | 0, ')' :: text => ⟨[], [], text, true⟩
  | depth + 1, ')' :: text => push ')' (scan split depth text)
  | 0, ',' :: text => if split then part (scan split 0 text) else push ',' (scan split 0 text)
  | depth, c :: text => push c (scan split depth text)

@[simp] theorem source_push (c : Char) (group : Group) :
    (push c group).source = c :: group.source := by
  obtain ⟨first, more, rest, closed⟩ := group
  cases more <;> rfl

@[simp] theorem source_part (group : Group) : (part group).source = ',' :: group.source := rfl

@[simp] theorem rest_push (c : Char) (group : Group) : (push c group).rest = group.rest := rfl

@[simp] theorem rest_part (group : Group) : (part group).rest = group.rest := rfl

/-- Nothing is lost: a group and the text after it make up the text it was read from. -/
theorem source_append_rest (split : Bool) (depth : Nat) (text : Text) :
    (scan split depth text).source ++ (scan split depth text).rest = text := by
  fun_induction scan split depth text with
  | case1 | case3 => rfl
  | case2 | case4 | case5 | case6 | case7 => simp_all

/-- The number of characters in some pieces, commas between them counted. -/
def span : (pieces : List Text) → Nat
  | [] => 0
  | piece :: more => piece.length + 1 + span more

@[simp] theorem span_nil : span [] = 0 := rfl

@[simp] theorem span_cons (piece : Text) (more : List Text) :
    span (piece :: more) = piece.length + 1 + span more := rfl

/-- Pieces and rest are no longer than the text. -/
theorem span_scan (split : Bool) (depth : Nat) (text : Text) :
    span (scan split depth text).pieces + (scan split depth text).rest.length
      ≤ text.length + 1 := by
  fun_induction scan split depth text <;> simp_all [pieces, push, part] <;> omega

theorem rest_length_le (split : Bool) (depth : Nat) (text : Text) :
    (scan split depth text).rest.length ≤ text.length := by
  have := span_scan split depth text
  simp only [pieces, span_cons] at this
  omega

theorem span_pieces_le (split : Bool) (depth : Nat) (text : Text) :
    span (scan split depth text).pieces ≤ text.length + 1 := by
  have := span_scan split depth text
  omega

end Group

/-- The name and the text after the parenthesis, if a function name and `(` come next. -/
def callHead? (text : Text) : Option (Text × Text) :=
  if text.takeWhile isNameChar = [] then none
  else match text.dropWhile isNameChar with
    | '(' :: body => some (text.takeWhile isNameChar, body)
    | _ => none

theorem callHead?_length {text name body : Text} (h : callHead? text = some (name, body)) :
    body.length < text.length := by
  have short := (List.dropWhile_sublist isNameChar (l := text)).length_le
  unfold callHead? at h
  split at h
  · simp at h
  · split at h
    · rename_i heq
      simp only [Option.some.injEq, Prod.mk.injEq] at h
      rw [heq, List.length_cons, h.2] at short
      exact short
    · simp at h

/-- A program together with the byte positions of the constructs that are never closed, in the
order in which they are found. -/
structure Compiled where
  program : Program
  issues : List Nat

namespace Compiled

/-- One more literal character at the front. -/
def pushLiteral (c : Char) (compiled : Compiled) : Compiled :=
  match compiled.program with
  | .literal text :: rest => { compiled with program := .literal (c :: text) :: rest }
  | program => { compiled with program := .literal [c] :: program }

/-- A construct at the front with the issues found in it. -/
def pushConstruct (segment : Segment) (issues : List Nat) (compiled : Compiled) : Compiled :=
  ⟨segment :: compiled.program, issues ++ compiled.issues⟩

end Compiled

namespace Pattern

/-- The issue of a group whose construct starts at `offset`. -/
def groupIssues (offset : Nat) (group : Group) : List Nat :=
  if group.closed then [] else [offset]

mutual

/-- Compiles `text`, which starts at byte `offset` of the pattern. -/
def compileFrom (offset : Nat) (text : Text) : Compiled :=
  match text with
  | [] => ⟨[], []⟩
  | '$' :: '(' :: body =>
    let group := Group.scan false 0 body
    have := Group.rest_length_le false 0 body
    (compileFrom (offset + 2 + Text.utf8Size group.source) group.rest).pushConstruct
      (.column group.first) (groupIssues offset group)
  | c :: rest =>
    match h : if c = '@' then callHead? rest else none with
    | some (name, body) =>
      let group := Group.scan true 0 body
      have : body.length < rest.length := by
        split at h
        · exact callHead?_length h
        · simp at h
      have := Group.span_pieces_le true 0 body
      have := Group.rest_length_le true 0 body
      let inside := offset + Text.utf8Size name + 2
      let args := compileArgs inside group.pieces
      (compileFrom (inside + Text.utf8Size group.source) group.rest).pushConstruct
        (.call name args.1) (groupIssues offset group ++ args.2)
    | none => (compileFrom (offset + c.utf8Size) rest).pushLiteral c
termination_by (text.length + 1, 0)
decreasing_by all_goals simp_wf; simp [Prod.lex_def] <;> omega

/-- Compiles call arguments, the first of which starts at byte `offset`: their programs and the
issues found in them. -/
def compileArgs (offset : Nat) (pieces : List Text) : List Program × List Nat :=
  match pieces with
  | [] => ([], [])
  | piece :: more =>
    let compiled := compileFrom offset piece
    let others := compileArgs (offset + Text.utf8Size piece + 1) more
    (compiled.program :: others.1, compiled.issues ++ others.2)
termination_by (Group.span pieces, 1)
decreasing_by all_goals simp_wf; simp [Prod.lex_def] <;> omega

end

/-- The program of a pattern. -/
def compile (pattern : Text) : Program :=
  (compileFrom 0 pattern).program

/-- The byte positions of the constructs that are never closed, in the order found. -/
def diagnose (pattern : Text) : List Nat :=
  (compileFrom 0 pattern).issues

end Pattern

/-- A structural problem in a pattern. -/
inductive PatternError
  /-- The construct opened at this byte is never closed. -/
  | unbalancedParenthesis (position : Nat)
  deriving DecidableEq

namespace PatternError

/-- The message for the user. -/
def message : PatternError → String
  | unbalancedParenthesis position =>
    "Unbalanced parenthesis: construct opened at byte " ++ toString position ++ " is never closed"

end PatternError

namespace Pattern

/-- The program of a pattern in which every construct is closed; otherwise the first problem. -/
def compileStrict (pattern : Text) : Except PatternError Program :=
  match diagnose pattern with
  | [] => .ok (compile pattern)
  | position :: _ => .error (.unbalancedParenthesis position)

end Pattern

end Rowwise
