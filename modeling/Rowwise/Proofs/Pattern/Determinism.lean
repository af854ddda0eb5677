import Mathlib.Algebra.GroupWithZero.Nat
import Rowwise.Pattern.Prepared

/-!
# Pattern — Determinism

The flag that a prepared program carries, against what it promises. A program without random draws
takes none on any row, so whatever stream it is given, it renders the same (`render_of_steady`).
And the flag is set exactly when no call that draws is reached from the top, where only the
arguments of calls that will be made are gone into (`isDeterministic_eq_false_iff`).

The first part follows the prepared nodes, of which a steady one (`Steady`) hands its draws on as
they came. The second follows the program: what draws in it is the business of a segment at the
top, or of an argument of a call there that is made (`Enters`).
-/

namespace Rowwise

/-! ## Functions -/

namespace Function

/-- A function that is told deterministic looks at no draw and takes none. -/
theorem call_of_isDeterministic {function : Function} (h : function.isDeterministic)
    (args : List Text) : ∃ result, ∀ draws, function.call args draws = (result, draws) := by
  obtain ⟨name, description, operation⟩ := function
  cases operation with
  | drawn run | binaryDrawn run => cases h
  | unary run | binary run | ternary run | binaryOptional run =>
    -- up to four arguments decide which line of the call is taken
    rcases args with _ | ⟨a, _ | ⟨b, _ | ⟨c, _ | ⟨d, rest⟩⟩⟩⟩ <;>
      exact ⟨_, fun draws => rfl⟩

/-- The two functions that draw random numbers. -/
theorem drawing_of_mem_table : ∀ function ∈ table, function.isDeterministic = false →
    function.name = "guid".toList ∧ function.arity = .exactly 0 ∨
      function.name = "random".toList ∧ function.arity = .exactly 2 := by
  decide

theorem mem_table_of_lookup? {name : Text} {function : Function}
    (h : lookup? name = some function) : function ∈ table ∧ function.name = name := by
  refine ⟨List.mem_of_find?_eq_some h, ?_⟩
  simpa using List.find?_some h

theorem lookup?_guid : ∃ function, lookup? "guid".toList = some function ∧
    function.arity = .exactly 0 ∧ function.isDeterministic = false :=
  ⟨_, rfl, rfl, rfl⟩

theorem lookup?_random : ∃ function, lookup? "random".toList = some function ∧
    function.arity = .exactly 2 ∧ function.isDeterministic = false :=
  ⟨_, rfl, rfl, rfl⟩

end Function

/-! ## A steady program -/

/-- The report of rows that are rendered as `line` says. -/
def Report.ofLines (line : Row → Rendered) (lineSeparator : Text) (rows : List Row) : Report :=
  ⟨rows.flatMap fun row => (line row).text ++ lineSeparator, rows.length,
    (rows.map fun row => (line row).substitutions).sum⟩

namespace Prepared

mutual

theorem renderNode_of_deterministic (context : Context) :
    ∀ node, nodeDeterministic node →
      ∃ rendered, ∀ draws, renderNode context draws node = (rendered, draws)
  | .literal text, _ => ⟨.ok text, fun draws => rfl⟩
  | .column selector, _ => by
    cases hcell : selector.cell? context with
    | some cell => exact ⟨.ok cell, fun draws => by rw [renderNode, hcell]⟩
    | none => exact ⟨.err, fun draws => by rw [renderNode, hcell]⟩
  | .call function args, h => by
    obtain ⟨hfunction, hargs⟩ := Bool.and_eq_true_iff.mp h
    obtain ⟨values, substitutions, hvalues⟩ := renderArgs_of_deterministic context args hargs
    obtain ⟨result, hresult⟩ := Function.call_of_isDeterministic hfunction values
    refine ⟨.ofCall substitutions result, fun draws => ?_⟩
    rw [renderNode, hvalues]
    dsimp only
    rw [hresult]
  | .fault, _ => ⟨.err, fun draws => rfl⟩

theorem renderArgs_of_deterministic (context : Context) :
    ∀ args, argsDeterministic args →
      ∃ values substitutions, ∀ draws,
        renderArgs context draws args = (values, substitutions, draws)
  | [], _ => ⟨[], 0, fun draws => rfl⟩
  | nodes :: more, h => by
    obtain ⟨hnodes, hmore⟩ := Bool.and_eq_true_iff.mp h
    obtain ⟨first, hfirst⟩ := renderNodes_of_deterministic context nodes hnodes
    obtain ⟨values, substitutions, hvalues⟩ := renderArgs_of_deterministic context more hmore
    refine ⟨first.text :: values, first.substitutions + substitutions, fun draws => ?_⟩
    rw [renderArgs, hfirst]
    dsimp only
    rw [hvalues]

theorem renderNodes_of_deterministic (context : Context) :
    ∀ nodes, nodesDeterministic nodes →
      ∃ rendered, ∀ draws, renderNodes context draws nodes = (rendered, draws)
  | [], _ => ⟨.empty, fun draws => rfl⟩
  | node :: rest, h => by
    obtain ⟨hnode, hrest⟩ := Bool.and_eq_true_iff.mp h
    obtain ⟨first, hfirst⟩ := renderNode_of_deterministic context node hnode
    obtain ⟨others, hothers⟩ := renderNodes_of_deterministic context rest hrest
    refine ⟨first.append others, fun draws => ?_⟩
    rw [renderNodes, hfirst]
    dsimp only
    rw [hothers]

end

/-- The program renders each of the rows as `line` says, and leaves the draws as they were. -/
def Steady (prepared : Prepared) (headers : List Text) (rows : List Row)
    (line : Row → Rendered) : Prop :=
  ∀ row ∈ rows, ∀ draws, prepared.renderLine ⟨headers, row⟩ draws = (line row, draws)

theorem exists_steady {prepared : Prepared} (h : prepared.isDeterministic)
    (headers : List Text) (rows : List Row) : ∃ line, prepared.Steady headers rows line := by
  have hline : ∀ row, ∃ rendered, ∀ draws,
      prepared.renderLine ⟨headers, row⟩ draws = (rendered, draws) := fun row =>
    renderNodes_of_deterministic ⟨headers, row⟩ prepared.nodes h
  obtain ⟨line, hsteady⟩ := Classical.axiomOfChoice hline
  exact ⟨line, fun row _ draws => hsteady row draws⟩

/-- **What a steady program renders**: its line for every row, with the line separator after it. -/
theorem render_of_steady {prepared : Prepared} {data : Dataset} {line : Row → Rendered}
    (h : prepared.Steady data.headers data.rows line) (lineSeparator : Text) (draws : Draws) :
    prepared.render data lineSeparator draws = (.ofLines line lineSeparator data.rows, draws) := by
  obtain ⟨headers, rows⟩ := data
  rw [render]
  dsimp only at h ⊢
  induction rows with
  | nil => rfl
  | cons row rest ih =>
    have hrest : prepared.Steady headers rest line := fun other hother =>
      h other (List.mem_cons_of_mem row hother)
    rw [renderRows, h row List.mem_cons_self draws]
    dsimp only
    rw [ih hrest]
    simp [Report.ofLines]

end Prepared

/-! ## The calls that draw -/

namespace Program

/-- A call that draws random numbers when it is made. -/
def IsDrawing : Segment → Prop
  | .call name args =>
    name = "guid".toList ∨ name = "random".toList ∧ args.length = 2
  | .literal _ | .column _ => False

/-- The call goes into its arguments: its function is known, takes arguments, and takes so many. -/
def Enters (name : Text) (args : List Program) : Prop :=
  ∃ function, Function.lookup? name = some function ∧ ¬ function.arity.isNullary ∧
    function.arity.accepts args.length

/-- The segments that are reached from the top of a program. -/
inductive Reaches : Program → Segment → Prop
  | top {program : Program} {segment : Segment} (h : segment ∈ program) : Reaches program segment
  | argument {program : Program} {name : Text} {args : List Program} {arg : Program}
      {segment : Segment} (hcall : .call name args ∈ program) (henters : Enters name args)
      (harg : arg ∈ args) (h : Reaches arg segment) : Reaches program segment

/-- Some call that draws is reached. -/
def Drawing (program : Program) : Prop :=
  ∃ segment, Reaches program segment ∧ IsDrawing segment

/-- The segment is a call that draws, or goes into an argument that does. -/
def DrawingSegment : Segment → Prop
  | .call name args =>
    IsDrawing (.call name args) ∨ Enters name args ∧ ∃ arg ∈ args, Drawing arg
  | .literal _ | .column _ => False

theorem drawing_iff {program : Program} :
    Drawing program ↔ ∃ segment ∈ program, DrawingSegment segment := by
  constructor
  · rintro ⟨drawing, hreaches, hdrawing⟩
    cases hreaches with
    | top h =>
      cases drawing with
      | literal text | column selector => exact hdrawing.elim
      | call name args => exact ⟨_, h, .inl hdrawing⟩
    | argument hcall henters harg h =>
      exact ⟨_, hcall, .inr ⟨henters, _, harg, drawing, h, hdrawing⟩⟩
  · rintro ⟨segment, hsegment, hdrawing⟩
    cases segment with
    | literal text | column selector => exact hdrawing.elim
    | call name args =>
      rcases hdrawing with hdrawing | ⟨henters, arg, harg, drawing, hreaches, hdrawing⟩
      · exact ⟨_, .top hsegment, hdrawing⟩
      · exact ⟨drawing, .argument hsegment henters harg hreaches, hdrawing⟩

/-! ### What the flag says of the parts -/

open Prepared

theorem nodesDeterministic_eq_false {program : Program} :
    nodesDeterministic (prepareSegments program) = false ↔
      ∃ segment ∈ program, nodeDeterministic (prepareSegment segment) = false := by
  induction program with
  | nil => simp [prepareSegments, nodesDeterministic]
  | cons segment rest ih =>
    rw [prepareSegments, nodesDeterministic, Bool.and_eq_false_iff, ih]
    simp

theorem argsDeterministic_eq_false {args : List Program} :
    argsDeterministic (prepareArgs args) = false ↔
      ∃ arg ∈ args, nodesDeterministic (prepareSegments arg) = false := by
  induction args with
  | nil => simp [prepareArgs, argsDeterministic]
  | cons arg more ih =>
    rw [prepareArgs, argsDeterministic, Bool.and_eq_false_iff, ih]
    simp

/-- A call that draws finds its function, which takes the arguments that the call has or ignores
them. -/
theorem IsDrawing.function {name : Text} {args : List Program}
    (h : IsDrawing (.call name args)) :
    ∃ function, Function.lookup? name = some function ∧ function.isDeterministic = false ∧
      (function.arity.isNullary ∨ function.arity.accepts args.length) := by
  rcases h with rfl | ⟨rfl, hlength⟩
  · obtain ⟨function, hlookup, harity, hdraws⟩ := Function.lookup?_guid
    refine ⟨function, hlookup, hdraws, .inl ?_⟩
    rw [harity]
    rfl
  · obtain ⟨function, hlookup, harity, hdraws⟩ := Function.lookup?_random
    refine ⟨function, hlookup, hdraws, .inr ?_⟩
    rw [harity, hlength]
    rfl

/-- A call that finds a function that draws is a call that draws, if the function takes its
arguments. -/
theorem isDrawing_of_function {name : Text} {args : List Program} {function : Function}
    (hlookup : Function.lookup? name = some function) (hdraws : function.isDeterministic = false)
    (hmade : function.arity.isNullary ∨ function.arity.accepts args.length) :
    IsDrawing (.call name args) := by
  obtain ⟨hmem, rfl⟩ := Function.mem_table_of_lookup? hlookup
  rcases Function.drawing_of_mem_table function hmem hdraws with ⟨hname, -⟩ | ⟨hname, harity⟩
  · exact .inl hname
  · rw [harity] at hmade
    refine .inr ⟨hname, ?_⟩
    rcases hmade with hnullary | haccepts
    · exact absurd hnullary (by decide)
    · exact beq_iff_eq.mp haccepts

/-- **A call** loses the flag by its function or by an argument that it goes into. -/
theorem callDeterministic_eq_false {name : Text} {args : List Program} :
    nodeDeterministic (prepareSegment (.call name args)) = false ↔
      IsDrawing (.call name args) ∨
        Enters name args ∧ ∃ arg ∈ args, nodesDeterministic (prepareSegments arg) = false := by
  rw [prepareSegment]
  cases hlookup : Function.lookup? name with
  | none =>
    refine iff_of_false (by simp [nodeDeterministic]) ?_
    rintro (hdrawing | ⟨⟨function, hfunction, -⟩, -⟩)
    · obtain ⟨function, hfunction, -⟩ := hdrawing.function
      rw [hlookup] at hfunction
      cases hfunction
    · rw [hlookup] at hfunction
      cases hfunction
  | some function =>
    have hsame : ∀ other, Function.lookup? name = some other → other = function := by
      intro other hother
      rw [hlookup] at hother
      exact (Option.some.inj hother).symm
    dsimp only
    by_cases hnullary : function.arity.isNullary
    · rw [if_pos hnullary, nodeDeterministic, argsDeterministic, Bool.and_true]
      constructor
      · intro hdraws
        exact .inl (isDrawing_of_function hlookup hdraws (.inl hnullary))
      · rintro (hdrawing | ⟨⟨other, hother, htakes, -⟩, -⟩)
        · obtain ⟨other, hother, hdraws, -⟩ := hdrawing.function
          exact hsame other hother ▸ hdraws
        · exact absurd (hsame other hother ▸ hnullary) htakes
    rw [if_neg hnullary]
    by_cases haccepts : function.arity.accepts args.length
    · rw [if_pos haccepts, nodeDeterministic, Bool.and_eq_false_iff, argsDeterministic_eq_false]
      constructor
      · rintro (hdraws | hargs)
        · exact .inl (isDrawing_of_function hlookup hdraws (.inr haccepts))
        · exact .inr ⟨⟨function, hlookup, hnullary, haccepts⟩, hargs⟩
      · rintro (hdrawing | ⟨-, hargs⟩)
        · obtain ⟨other, hother, hdraws, -⟩ := hdrawing.function
          exact .inl (hsame other hother ▸ hdraws)
        · exact .inr hargs
    · -- the call is not made, so neither its function nor its arguments count
      rw [if_neg haccepts]
      refine iff_of_false (by simp [nodeDeterministic]) ?_
      rintro (hdrawing | ⟨⟨other, hother, -, hother'⟩, -⟩)
      · obtain ⟨other, hother, -, hmade⟩ := hdrawing.function
        rw [hsame other hother] at hmade
        exact hmade.elim hnullary haccepts
      · exact haccepts (hsame other hother ▸ hother')

theorem isDeterministic_eq_false_iff (program : Program) :
    (ofProgram program).isDeterministic = false ↔ Drawing program := by
  induction program using nested_induction with
  | step program ih =>
    rw [isDeterministic, ofProgram, nodesDeterministic_eq_false, drawing_iff]
    refine exists_congr fun segment => and_congr_right fun hsegment => ?_
    cases segment with
    | literal text | column selector =>
      simp [prepareSegment, nodeDeterministic, DrawingSegment]
    | call name args =>
      have hargs : (∃ arg ∈ args, nodesDeterministic (prepareSegments arg) = false) ↔
          ∃ arg ∈ args, Drawing arg :=
        exists_congr fun arg => and_congr_right fun harg => ih name args hsegment arg harg
      rw [callDeterministic_eq_false, hargs, DrawingSegment]

/-- **The flag is sound and complete.** A program that has it renders every dataset the same, its
text, its rows and its substitutions, whatever random draws it is given. And a program lacks it
exactly when some call of `guid`, or of `random` with two arguments, is reached from the top
through the arguments of calls whose function is known, takes arguments, and takes so many. -/
theorem isDeterministic_sound_complete (program : Program) :
    ((ofProgram program).isDeterministic → ∀ data lineSeparator draws draws',
      ((ofProgram program).render data lineSeparator draws).1
        = ((ofProgram program).render data lineSeparator draws').1) ∧
    ((ofProgram program).isDeterministic = false ↔
      ∃ segment, Reaches program segment ∧ IsDrawing segment) := by
  refine ⟨?_, isDeterministic_eq_false_iff program⟩
  intro hdeterministic data lineSeparator draws draws'
  obtain ⟨line, hsteady⟩ := exists_steady hdeterministic data.headers data.rows
  rw [render_of_steady hsteady, render_of_steady hsteady]

/-- A call inside an argument counts, but not inside the arguments of a call that is never made. -/
example :
    (ofProgram [.call "trim".toList [[.call "guid".toList []]]]).isDeterministic = false ∧
      (ofProgram [.call "trim".toList [[.call "guid".toList []], []]]).isDeterministic = true := by
  decide

end Program

end Rowwise
