import Rowwise.Pattern.Compile
import Rowwise.Pattern.Function
import Rowwise.Pattern.Selector

/-!
# Rendering

A program is prepared once: names become functions, selectors are told apart, and calls that
cannot succeed become faults. The prepared program then renders any number of rows. Whatever
cannot be resolved is rendered as `ERR` and counted.
-/

namespace Rowwise

/-- What stands in the place of anything that cannot be resolved. -/
def errText : Text := ['E', 'R', 'R']

/-- A segment with its names resolved. -/
inductive Node
  | literal (text : Text)
  | column (selector : Selector)
  | call (function : Function) (args : List (List Node))
  | fault

/-- A rendered text and the number of segments that were rendered as `ERR`. -/
structure Rendered where
  text : Text
  substitutions : Nat
  deriving DecidableEq

namespace Rendered

/-- Nothing. -/
def empty : Rendered := ⟨[], 0⟩

/-- Text that was resolved. -/
def ok (text : Text) : Rendered := ⟨text, 0⟩

/-- One segment that could not be resolved. -/
def err : Rendered := ⟨errText, 1⟩

/-- One after the other. -/
def append (a b : Rendered) : Rendered :=
  ⟨a.text ++ b.text, a.substitutions + b.substitutions⟩

/-- The outcome of a call whose arguments took `substitutions`. -/
def ofCall (substitutions : Nat) : CallResult → Rendered
  | .ok text => ⟨text, substitutions⟩
  | .error _ => ⟨errText, substitutions + 1⟩

end Rendered

/-- A program ready to render. -/
structure Prepared where
  nodes : List Node

namespace Prepared

/-! ### Preparing -/

mutual

/-- Resolves a segment. A function without arguments ignores the body of its call. -/
def prepareSegment : Segment → Node
  | .literal text => .literal text
  | .column selector => .column (.ofText selector)
  | .call name args =>
    match Function.lookup? name with
    | some function =>
      if function.arity.isNullary then .call function []
      else if function.arity.accepts args.length then .call function (prepareArgs args)
      else .fault
    | none => .fault

/-- Resolves call arguments. -/
def prepareArgs : List (List Segment) → List (List Node)
  | [] => []
  | program :: more => prepareSegments program :: prepareArgs more

/-- Resolves segments. -/
def prepareSegments : List Segment → List Node
  | [] => []
  | segment :: rest => prepareSegment segment :: prepareSegments rest

end

/-- The program with its names resolved. -/
def ofProgram (program : Program) : Prepared :=
  ⟨prepareSegments program⟩

/-! ### Properties -/

mutual

/-- Whether a node calls no function that draws random numbers. -/
def nodeDeterministic : Node → Bool
  | .literal _ | .column _ | .fault => true
  | .call function args => function.isDeterministic && argsDeterministic args

/-- Whether no argument calls a function that draws random numbers. -/
def argsDeterministic : List (List Node) → Bool
  | [] => true
  | nodes :: more => nodesDeterministic nodes && argsDeterministic more

/-- Whether no node of a list calls a function that draws random numbers. -/
def nodesDeterministic : List Node → Bool
  | [] => true
  | node :: rest => nodeDeterministic node && nodesDeterministic rest

end

/-- Whether the program renders the same for the same row. -/
def isDeterministic (prepared : Prepared) : Bool :=
  nodesDeterministic prepared.nodes

/-- The number of top-level segments. -/
def segmentCount (prepared : Prepared) : Nat :=
  prepared.nodes.length

/-! ### Rendering rows -/

mutual

/-- Renders a node. -/
def renderNode (context : Context) (draws : Draws) : Node → Rendered × Draws
  | .literal text => (.ok text, draws)
  | .column selector =>
    match selector.cell? context with
    | some cell => (.ok cell, draws)
    | none => (.err, draws)
  | .call function args =>
    let (values, substitutions, draws) := renderArgs context draws args
    let (result, draws) := function.call values draws
    (.ofCall substitutions result, draws)
  | .fault => (.err, draws)

/-- Renders call arguments from left to right: their texts, and the substitutions in them. -/
def renderArgs (context : Context) (draws : Draws) : List (List Node) → List Text × Nat × Draws
  | [] => ([], 0, draws)
  | nodes :: more =>
    let (first, draws) := renderNodes context draws nodes
    let (values, substitutions, draws) := renderArgs context draws more
    (first.text :: values, first.substitutions + substitutions, draws)

/-- Renders nodes from left to right. -/
def renderNodes (context : Context) (draws : Draws) : List Node → Rendered × Draws
  | [] => (.empty, draws)
  | node :: rest =>
    let (first, draws) := renderNode context draws node
    let (others, draws) := renderNodes context draws rest
    (first.append others, draws)

end

/-- Renders one row. -/
def renderLine (prepared : Prepared) (context : Context) (draws : Draws) : Rendered × Draws :=
  renderNodes context draws prepared.nodes

end Prepared

/-- What rendering a dataset gave. -/
structure Report where
  /-- The lines, each with the line separator after it. -/
  text : Text
  /-- The number of rows rendered. -/
  rows : Nat
  /-- The number of segments rendered as `ERR`. -/
  substitutions : Nat
  deriving DecidableEq

namespace Prepared

/-- Renders rows, each with the line separator after it. -/
def renderRows (prepared : Prepared) (headers : List Text) (lineSeparator : Text) :
    List Row → Draws → Report × Draws
  | [], draws => (⟨[], 0, 0⟩, draws)
  | row :: rest, draws =>
    let (line, draws) := prepared.renderLine ⟨headers, row⟩ draws
    let (report, draws) := renderRows prepared headers lineSeparator rest draws
    (⟨line.text ++ lineSeparator ++ report.text, report.rows + 1,
      line.substitutions + report.substitutions⟩, draws)

/-- Renders every row of a dataset. -/
def render (prepared : Prepared) (data : Dataset) (lineSeparator : Text) (draws : Draws) :
    Report × Draws :=
  prepared.renderRows data.headers lineSeparator data.rows draws

end Prepared

end Rowwise
