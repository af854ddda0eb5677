import Rowwise.Proofs.Pattern.Determinism

/-!
# Pattern — Columns

What a line can depend on. A program lists its selectors (`Program.selectors`), those inside call
arguments too; apart from the draws, nothing else of headers and row reaches the line. So two
contexts in which the listed selectors find the same render alike, however they differ otherwise.

Three walks over the tree are compared: the list of selectors, the preparation, which leaves some
arguments out, and the rendering of what was prepared. Where an argument is left out, its selectors
are listed all the same, so the list may be longer than needed but never too short
(`renderNodes_of_alike`).
-/

namespace Rowwise

/-- The contexts are alike for some selectors: each finds the same cell text in both, or none in
either. -/
def Context.Alike (selectors : List Text) (a b : Context) : Prop :=
  ∀ selector ∈ selectors,
    (Selector.ofText selector).cell? a = (Selector.ofText selector).cell? b

namespace Context.Alike

variable {more fewer : List Text} {a b : Context}

theorem mono (h : Alike more a b) (hsub : ∀ selector ∈ fewer, selector ∈ more) :
    Alike fewer a b := fun selector hselector => h selector (hsub selector hselector)

theorem left (h : Alike (more ++ fewer) a b) : Alike more a b :=
  h.mono fun _ => List.mem_append_left fewer

theorem right (h : Alike (more ++ fewer) a b) : Alike fewer a b :=
  h.mono fun _ => List.mem_append_right more

end Context.Alike

/-! ## The selectors of the parts -/

namespace Program

theorem selectors_cons (segment : Segment) (rest : Program) :
    selectors (segment :: rest) = selectors [segment] ++ selectors rest := by
  cases segment <;> simp [selectors, segments, List.filterMap_append]

theorem selectors_column (selector : Text) : selectors [.column selector] = [selector] := rfl

theorem selectors_call (name : Text) (args : List Program) :
    selectors [.call name args] = args.flatMap selectors := by
  induction args with
  | nil => rfl
  | cons arg more ih =>
    have hcons : selectors [.call name (arg :: more)]
        = selectors arg ++ selectors [.call name more] := by
      simp [selectors, segments, below, belowAll, List.filterMap_append]
    rw [hcons, ih, List.flatMap_cons]

end Program

/-! ## Rendering what the selectors find -/

namespace Prepared

open Program

variable {a b : Context}

mutual

theorem renderNode_of_alike (draws : Draws) : ∀ segment : Segment,
    Context.Alike (selectors [segment]) a b →
      renderNode a draws (prepareSegment segment) = renderNode b draws (prepareSegment segment)
  | .literal text, _ => rfl
  | .column selector, h => by
    have hcell := h selector (by simp [selectors_column])
    rw [prepareSegment, renderNode, renderNode, hcell]
  | .call name args, h => by
    rw [selectors_call] at h
    have hargs := renderArgs_of_alike draws args h
    rw [prepareSegment]
    cases Function.lookup? name with
    | none => rfl
    | some function =>
      dsimp only
      split
      · rfl
      · split
        · rw [renderNode, renderNode, hargs]
        · rfl

theorem renderArgs_of_alike (draws : Draws) : ∀ args : List (List Segment),
    Context.Alike (args.flatMap selectors) a b →
      renderArgs a draws (prepareArgs args) = renderArgs b draws (prepareArgs args)
  | [], _ => rfl
  | program :: more, h => by
    rw [List.flatMap_cons] at h
    rw [prepareArgs, renderArgs, renderArgs, renderNodes_of_alike draws program h.left]
    obtain ⟨first, left⟩ := renderNodes b draws (prepareSegments program)
    dsimp only
    rw [renderArgs_of_alike left more h.right]

theorem renderNodes_of_alike (draws : Draws) : ∀ program : List Segment,
    Context.Alike (selectors program) a b →
      renderNodes a draws (prepareSegments program) = renderNodes b draws (prepareSegments program)
  | [], _ => rfl
  | segment :: rest, h => by
    rw [selectors_cons] at h
    rw [prepareSegments, renderNodes, renderNodes, renderNode_of_alike draws segment h.left]
    obtain ⟨first, left⟩ := renderNode b draws (prepareSegment segment)
    dsimp only
    rw [renderNodes_of_alike left rest h.right]

end

/-- Contexts that are alike for the selectors of a program give the same line and leave the same
draws. -/
theorem renderLine_of_alike {program : Program} (h : Context.Alike program.selectors a b)
    (draws : Draws) :
    (ofProgram program).renderLine a draws = (ofProgram program).renderLine b draws :=
  renderNodes_of_alike draws program h

/-- A program without selectors and random draws has one line for all rows. -/
theorem exists_steady_of_no_selectors {program : Program} (h : program.selectors = [])
    (hdeterministic : (ofProgram program).isDeterministic) :
    ∃ line, ∀ headers rows, (ofProgram program).Steady headers rows fun _ => line := by
  obtain ⟨line, hline⟩ :=
    renderNodes_of_deterministic ⟨[], []⟩ (ofProgram program).nodes hdeterministic
  refine ⟨line, fun headers rows row _ draws => ?_⟩
  have halike : Context.Alike program.selectors ⟨headers, row⟩ ⟨[], []⟩ := by
    rw [h]
    intro selector hselector
    cases hselector
  rw [renderLine_of_alike halike]
  exact hline draws

end Prepared

namespace Program

open Prepared

/-- **A line depends on the listed columns only.** Take a program without random draws. In any two
contexts in which each of its selectors finds the same cell text, or none in both, it renders the
same text with the same number of substitutions, whatever the draws are. So if it lists no
selector, it has one line, which it renders for every row of every dataset. -/
theorem line_depends_on_selectors {program : Program}
    (hdeterministic : (ofProgram program).isDeterministic) :
    (∀ a b, Context.Alike program.selectors a b → ∀ draws draws',
      ((ofProgram program).renderLine a draws).1 = ((ofProgram program).renderLine b draws').1) ∧
    (program.selectors = [] → ∃ line : Rendered, ∀ data lineSeparator draws,
      ((ofProgram program).render data lineSeparator draws).1
        = .ofLines (fun _ => line) lineSeparator data.rows) := by
  constructor
  · intro a b halike draws draws'
    obtain ⟨line, hline⟩ := renderNodes_of_deterministic b (ofProgram program).nodes hdeterministic
    have hdraws : ∀ other, ((ofProgram program).renderLine b other).1 = line := fun other =>
      congrArg Prod.fst (hline other)
    rw [renderLine_of_alike halike, hdraws, hdraws]
  · intro hselectors
    obtain ⟨line, hsteady⟩ := exists_steady_of_no_selectors hselectors hdeterministic
    refine ⟨line, fun data lineSeparator draws => ?_⟩
    rw [render_of_steady (hsteady data.headers data.rows)]

/-- Two contexts that share no header and no row length: the name is found at different places, the
position in neither, and the selector of a call that is never made counts as listed. -/
theorem line_depends_on_selectors_two :
    let program : Program := [.call "upper".toList [[.column "Name".toList]],
      .column "7".toList, .call "nosuch".toList [[.column "-1".toList]]]
    let a : Context := ⟨["x".toList, "name".toList], ["u".toList, "q".toList]⟩
    let b : Context := ⟨["NAME".toList], ["q".toList, "w".toList, "z".toList]⟩
    (ofProgram program).isDeterministic ∧ Context.Alike program.selectors a b ∧
      ∀ draws draws', ((ofProgram program).renderLine a draws).1
        = ((ofProgram program).renderLine b draws').1 := by
  intro program a b
  have hdeterministic : (ofProgram program).isDeterministic := by decide
  have halike : Context.Alike program.selectors a b := by
    unfold Context.Alike
    decide
  exact ⟨hdeterministic, halike, (line_depends_on_selectors hdeterministic).1 a b halike⟩

end Program

end Rowwise
