import Mathlib.Algebra.GroupWithZero.Nat
import Rowwise.Pattern.Prepared

/-!
# Pattern — Interpretation

What a program means for a row, said without preparing it: an interpreter goes over the segments,
looks every name and selector up where it meets it, and keeps the random draws and the number of
substitutions in one session. The main statement is that preparing a program once and rendering
all rows gives the interpreter's lines.

Preparing and interpreting go over the same tree, so each construct is compared once. Rendering
adds up the substitutions of the parts, the session counts on; the comparison (`counted`) is
therefore made from any count.
-/

namespace Rowwise.Program

/-! ## The interpreter -/

/-- What changes while a row is interpreted. -/
structure Session where
  draws : Draws
  substitutions : Nat

/-- Something that cannot be resolved. -/
def unresolved : StateM Session Text := do
  modify fun session => { session with substitutions := session.substitutions + 1 }
  return errText

/-- The value of a native function, if it has one. -/
def invoke (function : Function) (values : List Text) : StateM Session Text := do
  let session ← get
  let (result, draws) := function.call values session.draws
  set { session with draws }
  match result with
  | .ok text => return text
  | .error _ => unresolved

mutual

/-- Interprets a segment. The arguments of a call are looked at only if the function is known, takes
arguments, and takes so many of them. -/
def interpretSegment (context : Context) : Segment → StateM Session Text
  | .literal text => return text
  | .column selector =>
    match (Selector.ofText selector).cell? context with
    | some cell => return cell
    | none => unresolved
  | .call name args =>
    match Function.lookup? name with
    | none => unresolved
    | some function =>
      if function.arity = .exactly 0 then invoke function []
      else if function.arity.accepts args.length then do
        invoke function (← interpretArgs context args)
      else unresolved

/-- Interprets call arguments from left to right. -/
def interpretArgs (context : Context) : List (List Segment) → StateM Session (List Text)
  | [] => return []
  | program :: more => do
    let value ← interpretSegments context program
    let values ← interpretArgs context more
    return value :: values

/-- Interprets segments from left to right. -/
def interpretSegments (context : Context) : List Segment → StateM Session Text
  | [] => return []
  | segment :: rest => do
    let first ← interpretSegment context segment
    let others ← interpretSegments context rest
    return first ++ others

end

/-- Interprets a program for one row: its line, with the substitutions in it. -/
def interpret (program : Program) (context : Context) (draws : Draws) : Rendered × Draws :=
  let (text, session) := (interpretSegments context program).run ⟨draws, 0⟩
  (⟨text, session.substitutions⟩, session.draws)

/-- Interprets a program for one row after the other. -/
def interpretRows (program : Program) (headers : List Text) :
    List Row → Draws → List Rendered × Draws
  | [], draws => ([], draws)
  | row :: rest, draws =>
    let (line, draws) := interpret program ⟨headers, row⟩ draws
    let (lines, draws) := interpretRows program headers rest draws
    (line :: lines, draws)

/-! ## Preparing keeps the meaning -/

open Prepared

section

variable {α β : Type}

theorem run_pure (value : α) (session : Session) :
    (pure value : StateM Session α).run session = (value, session) := rfl

theorem run_bind (action : StateM Session α) (next : α → StateM Session β)
    (session : Session) :
    (action >>= next).run session = (next (action.run session).1).run (action.run session).2 := rfl

end

/-- A rendered part as a session sees it that has counted so many substitutions before. -/
def counted (count : Nat) (outcome : Rendered × Draws) : Text × Session :=
  (outcome.1.text, ⟨outcome.2, count + outcome.1.substitutions⟩)

/-- Rendered arguments as a session sees them. -/
def countedArgs (count : Nat) (outcome : List Text × Nat × Draws) : List Text × Session :=
  (outcome.1, ⟨outcome.2.2, count + outcome.2.1⟩)

/-- A native function gives the same value in a session as without one. The substitutions in its
arguments were counted before. -/
theorem run_invoke (function : Function) (values : List Text) (draws : Draws)
    (count substitutions : Nat) :
    (invoke function values).run ⟨draws, count + substitutions⟩ =
      counted count (.ofCall substitutions (function.call values draws).1,
        (function.call values draws).2) := by
  have hrun : (invoke function values).run ⟨draws, count + substitutions⟩ =
      (match (function.call values draws).1 with
        | .ok text => return text
        | .error _ => unresolved : StateM Session Text).run
          ⟨(function.call values draws).2, count + substitutions⟩ := rfl
  rw [hrun]
  cases (function.call values draws).1 with
  | ok text => rfl
  | error _ => rfl

mutual

theorem run_interpretSegment (context : Context) (draws : Draws) (count : Nat) :
    ∀ segment : Segment, (interpretSegment context segment).run ⟨draws, count⟩
      = counted count (renderNode context draws (prepareSegment segment))
  | .literal text => rfl
  | .column selector => by
    rw [interpretSegment, prepareSegment, renderNode]
    cases (Selector.ofText selector).cell? context with
    | some cell => rfl
    | none => rfl
  | .call name args => by
    rw [interpretSegment, prepareSegment]
    cases Function.lookup? name with
    | none => rfl
    | some function =>
      by_cases hnullary : function.arity = .exactly 0
      · -- neither side looks at the arguments
        have hbound : function.arity.isNullary = true := beq_iff_eq.mpr hnullary
        simp only [if_pos hnullary, if_pos hbound]
        exact run_invoke function [] draws count 0
      have hbound : ¬function.arity.isNullary = true := fun h => hnullary (beq_iff_eq.mp h)
      simp only [if_neg hnullary, if_neg hbound]
      by_cases haccepts : function.arity.accepts args.length
      · simp only [if_pos haccepts]
        -- the session has counted the arguments when the function is invoked
        rw [run_bind, run_interpretArgs context draws count args, renderNode]
        exact run_invoke ..
      · simp only [if_neg haccepts]
        rfl

theorem run_interpretArgs (context : Context) (draws : Draws) (count : Nat) :
    ∀ args : List (List Segment), (interpretArgs context args).run ⟨draws, count⟩
      = countedArgs count (renderArgs context draws (prepareArgs args))
  | [] => rfl
  | program :: more => by
    rw [interpretArgs, prepareArgs, renderArgs, run_bind,
      run_interpretSegments context draws count program]
    obtain ⟨first, left⟩ := renderNodes context draws (prepareSegments program)
    simp only [counted]
    rw [run_bind, run_interpretArgs context left (count + first.substitutions) more]
    simp only [countedArgs, run_pure, Nat.add_assoc]

theorem run_interpretSegments (context : Context) (draws : Draws) (count : Nat) :
    ∀ program : List Segment, (interpretSegments context program).run ⟨draws, count⟩
      = counted count (renderNodes context draws (prepareSegments program))
  | [] => rfl
  | segment :: rest => by
    rw [interpretSegments, prepareSegments, renderNodes, run_bind,
      run_interpretSegment context draws count segment]
    obtain ⟨first, left⟩ := renderNode context draws (prepareSegment segment)
    simp only [counted]
    rw [run_bind, run_interpretSegments context left (count + first.substitutions) rest]
    simp only [counted, Rendered.append, run_pure, Nat.add_assoc]

end

/-- A prepared program renders a row as the interpreter does. -/
theorem interpret_eq_renderLine (program : Program) (context : Context) (draws : Draws) :
    interpret program context draws = (Prepared.ofProgram program).renderLine context draws := by
  rw [interpret, run_interpretSegments]
  simp [counted, renderLine, ofProgram]

/-- **Preparing keeps the meaning.** Rendering a dataset by a prepared program gives the lines of
the interpreter with the line separator after each, counts the rows, and adds up the
substitutions; and it uses the same draws. -/
theorem render_eq_interpretation (program : Program) (data : Dataset) (lineSeparator : Text)
    (draws : Draws) :
    (Prepared.ofProgram program).render data lineSeparator draws =
      let (lines, left) := interpretRows program data.headers data.rows draws
      (⟨lines.flatMap fun line => line.text ++ lineSeparator, data.rows.length,
        (lines.map Rendered.substitutions).sum⟩, left) := by
  obtain ⟨headers, rows⟩ := data
  rw [render]
  -- each row starts with the draws that the rows before have left
  induction rows generalizing draws with
  | nil => rfl
  | cons row rest ih =>
    dsimp only at ih ⊢
    rw [renderRows, interpretRows, interpret_eq_renderLine]
    obtain ⟨line, left⟩ := (ofProgram program).renderLine ⟨headers, row⟩ draws
    dsimp only
    rw [ih left]
    simp

end Rowwise.Program
