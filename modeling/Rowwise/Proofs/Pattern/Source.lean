import Mathlib.Data.Set.Function
import Rowwise.Proofs.Pattern.Diagnosis

/-!
# Pattern — Source

Compiling loses nothing and invents nothing but the parentheses that the pattern lacks: the source
text of the compiled program is the pattern followed by one closing parenthesis for each construct
that is never closed (`source_compileFrom`). The missing parentheses all stand at the end because
only the last piece of an unclosed call can lack any (`source_compileArgs`).
-/

namespace Rowwise.Pattern

open Rowwise.Program (source argsSource segmentSource)

theorem source_pushLiteral (c : Char) (compiled : Compiled) :
    source (compiled.pushLiteral c).program = c :: source compiled.program := by
  unfold Compiled.pushLiteral
  split
  · rename_i text rest h
    simp [h, source, segmentSource]
  · rfl

theorem issues_compileArgs_closed {split : Bool} {pieces : List Text}
    (h : ∀ piece ∈ pieces, Group.Piece split 0 piece) (offset : Nat) :
    (compileArgs offset pieces).2 = [] := by
  induction pieces generalizing offset with
  | nil => rw [compileArgs_nil]
  | cons piece more ih =>
    rw [compileArgs_cons, issues_of_opens_eq_zero (h piece (by simp)).opens_eq,
      ih fun piece hp => h piece (by simp [hp])]
    rfl

/-- **The arguments of a call** lack parentheses only at the end of the last. -/
theorem source_compileArgs {closed : Bool} {first : Text} {more : List Text}
    (hparts : Group.Parts true closed 0 first more)
    (ih : ∀ piece ∈ first :: more, ∀ offset, source (compileFrom offset piece).program
      = piece ++ List.replicate (compileFrom offset piece).issues.length ')') (offset : Nat) :
    argsSource (compileArgs offset (first :: more)).1 = Text.join [','] (first :: more)
      ++ List.replicate (compileArgs offset (first :: more)).2.length ')' := by
  induction more generalizing first offset with
  | nil =>
    simp only [compileArgs_cons, compileArgs_nil, List.append_nil, argsSource]
    exact ih first (by simp) offset
  | cons next more ihmore =>
    obtain ⟨hfirst, hrest⟩ := hparts
    have hnone := issues_of_opens_eq_zero hfirst.opens_eq offset
    have hsource : source (compileFrom offset first).program = first := by
      rw [ih first (by simp), hnone]
      simp
    have hnext := ihmore hrest (fun piece hp => ih piece (by simp [hp]))
      (offset + Text.utf8Size first + 1)
    rw [compileArgs_cons offset, compileArgs_cons _ next] at *
    simp only [argsSource, hsource, hnone, List.nil_append] at hnext ⊢
    rw [hnext]
    simp [Text.join]

/-- **The source of what a pattern compiles to** is the pattern, with the parentheses it lacks. -/
theorem source_compileFrom (text : Text) (offset : Nat) :
    source (compileFrom offset text).program
      = text ++ List.replicate (compileFrom offset text).issues.length ')' := by
  induction text using induct generalizing offset with
  | nil => simp [source]
  | literal c text hno ih =>
    rw [compileFrom_literal offset hno, source_pushLiteral, ih, issues_pushLiteral]
    rfl
  | column body ih =>
    rw [compileFrom_column, program_pushConstruct, issues_pushConstruct, source, segmentSource, ih]
    have hwhole := @Group.scan_whole_of_closed body
    have hopen := @Group.scan_whole_of_not_closed body
    have hrest := @Group.rest_of_not_closed false 0 body
    generalize Group.scan false 0 body = group at *
    cases hclosed : group.closed with
    | true =>
      obtain ⟨htext, -⟩ := hwhole hclosed
      rw [groupIssues, if_pos hclosed, htext]
      simp
    | false =>
      rw [groupIssues, hclosed, hrest hclosed, ← hopen hclosed]
      simp
  | call name body hne hname ihpieces ih =>
    have hargs := source_compileArgs (Group.scan_parts true 0 body) ihpieces
      (offset + Text.utf8Size name + 2)
    rw [← Group.pieces] at hargs
    rw [compileFrom_call offset hne hname, program_pushConstruct, issues_pushConstruct, source,
      segmentSource, ih, hargs]
    have hwhole := @Group.scan_of_closed true body
    have hopen := @Group.scan_of_not_closed true body
    have hrest := @Group.rest_of_not_closed true 0 body
    generalize Group.scan true 0 body = group at *
    cases hclosed : group.closed with
    | true =>
      -- the pieces of a closed call are complete, so its arguments add no parenthesis
      obtain ⟨htext, hpieces⟩ := hwhole hclosed
      rw [issues_compileArgs_closed hpieces, groupIssues, if_pos hclosed, htext]
      simp
    | false =>
      rw [groupIssues, hclosed, hrest hclosed, ← hopen hclosed]
      simp [List.replicate_succ']

theorem source_compile (pattern : Text) :
    source (compile pattern) = pattern ++ List.replicate (diagnose pattern).length ')' :=
  source_compileFrom pattern 0

/-- A pattern that strict compilation accepts is the source text of its program. -/
theorem source_of_compileStrict {pattern : Text} {program : Program}
    (h : compileStrict pattern = .ok program) : source program = pattern := by
  obtain ⟨hnone, rfl⟩ := compileStrict_eq_ok.mp h
  rw [source_compile, hnone]
  simp

/-- **Compiling loses and invents nothing**: the source text of a compiled pattern is the pattern
with one closing parenthesis for every issue. Accepted patterns are the source texts of their
programs, so no two of them have the same program. -/
theorem compile_lossless :
    (∀ pattern, source (compile pattern)
      = pattern ++ List.replicate (diagnose pattern).length ')') ∧
      (∀ pattern program, compileStrict pattern = .ok program →
        source (compile pattern) = pattern) ∧
      Set.InjOn compile {pattern | ∃ program, compileStrict pattern = .ok program} := by
  have haccepted : ∀ pattern program, compileStrict pattern = .ok program →
      source (compile pattern) = pattern := by
    intro pattern program h
    obtain ⟨-, rfl⟩ := compileStrict_eq_ok.mp h
    exact source_of_compileStrict h
  refine ⟨source_compile, haccepted, ?_⟩
  rintro p ⟨_, hp⟩ q ⟨_, hq⟩ heq
  rw [← haccepted p _ hp, heq, haccepted q _ hq]

end Rowwise.Pattern
