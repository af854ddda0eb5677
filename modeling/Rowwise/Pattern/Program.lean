import Rowwise.Text.Basic

/-!
# Pattern programs

A compiled pattern is a list of segments: fixed text, a reference to a column, or a function call
whose arguments are programs again. A program holds no row data and no function, so one program
serves any number of rows.
-/

namespace Rowwise

/-- One unit of a pattern. -/
inductive Segment
  /-- Fixed text. -/
  | literal (text : Text)
  /-- `$(selector)`: the cell of a column. -/
  | column (selector : Text)
  /-- `@name(arg,…)`: a function applied to rendered arguments. -/
  | call (name : Text) (args : List (List Segment))

/-- The segments of a pattern in order. -/
abbrev Program := List Segment

namespace Program

/-- **Induction over nesting**: what holds of a program if it holds of the arguments of all its
calls, holds of every program. -/
theorem nested_induction {motive : Program → Prop}
    (step : ∀ program : Program,
      (∀ name args, .call name args ∈ program → ∀ arg ∈ args, motive arg) → motive program)
    (program : Program) : motive program := by
  apply step
  intro name args hcall arg harg
  have := List.sizeOf_lt_of_mem hcall
  have := List.sizeOf_lt_of_mem harg
  exact nested_induction step arg
termination_by sizeOf program
decreasing_by
  rw [Segment.call.sizeOf_spec] at *
  omega

mutual

/-- The segments below a segment, depth first. -/
def below : Segment → List Segment
  | .literal _ | .column _ => []
  | .call _ args => belowAll args

/-- All segments of the programs, depth first. -/
def belowAll : List (List Segment) → List Segment
  | [] => []
  | program :: more => segments program ++ belowAll more

/-- All segments of a program, depth first, a call before its arguments. -/
def segments : List Segment → List Segment
  | [] => []
  | segment :: rest => segment :: below segment ++ segments rest

end

/-- The selectors that a program mentions, inside call arguments too, with repetitions. -/
def selectors (program : Program) : List Text :=
  (segments program).filterMap fun
    | .column selector => some selector
    | _ => none

/-- The function names that a program mentions, nested calls included, with repetitions. -/
def functionNames (program : Program) : List Text :=
  (segments program).filterMap fun
    | .call name _ => some name
    | _ => none

mutual

/-- The source text of a segment. -/
def segmentSource : Segment → Text
  | .literal text => text
  | .column selector => '$' :: '(' :: selector ++ [')']
  | .call name args => '@' :: name ++ '(' :: argsSource args ++ [')']

/-- The source text of call arguments, with commas between them. -/
def argsSource : List (List Segment) → Text
  | [] => []
  | [program] => source program
  | program :: more => source program ++ ',' :: argsSource more

/-- The source text of a program: the pattern that it is compiled from. -/
def source : List Segment → Text
  | [] => []
  | segment :: rest => segmentSource segment ++ source rest

end

end Program

end Rowwise
