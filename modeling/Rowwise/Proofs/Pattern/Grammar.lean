import Rowwise.Proofs.Pattern.Source

/-!
# Pattern — Grammar

The programs that compiling well-formed patterns gives are the `Canonical` ones, and on them
compiling and writing the source text are inverse to each other.

One direction follows the program (`compileFrom_source`): at the seam of a literal and the segment
after it no construct can begin that was not there, since that segment starts with `$` or `@`,
which stand inside no construct's opening. The other follows the pattern (`canonical_compileFrom`):
a literal is a stretch of the pattern where no construct begins.
-/

namespace Rowwise.Pattern

open Rowwise.Program (source argsSource segmentSource)
open Rowwise.Text (Balanced NoOuterComma)

/-- No construct begins in the text. -/
def NoConstruct (text : Text) : Prop :=
  ∀ before after construct body, text = before ++ after → ¬ Opens construct body after

/-- The program begins with fixed text. -/
def StartsLiteral : Program → Prop
  | .literal _ :: _ => True
  | _ => False

/-- **The grammar of programs**: literals hold some text, none of it a construct, and stand apart;
selectors balance; calls have a name and arguments, and the source text of an argument balances
and keeps its commas inside parentheses. -/
inductive Canonical : Program → Prop
  | nil : Canonical []
  | literal {text : Text} {rest : Program} (hne : text ≠ []) (hno : NoConstruct text)
      (hapart : ¬ StartsLiteral rest) (hrest : Canonical rest) :
      Canonical (.literal text :: rest)
  | column {selector : Text} {rest : Program} (hbalanced : Balanced selector)
      (hrest : Canonical rest) : Canonical (.column selector :: rest)
  | call {name : Text} {args : List Program} {rest : Program} (hne : name ≠ [])
      (hname : ∀ c ∈ name, isNameChar c) (hargs : args ≠ [])
      (hcanonical : ∀ arg ∈ args, Canonical arg)
      (hsource : ∀ arg ∈ args, Balanced (source arg) ∧ NoOuterComma (source arg))
      (hrest : Canonical rest) : Canonical (.call name args :: rest)

/-! ## From programs to patterns -/

theorem argsSource_eq (args : List Program) :
    argsSource args = Text.join [','] (args.map source) := by
  induction args with
  | nil => rfl
  | cons arg args ih =>
    cases args with
    | nil => rfl
    | cons next args =>
      rw [argsSource, ih]
      · simp [Text.join]
      · simp

theorem source_head {rest : Program} (hapart : ¬ StartsLiteral rest) {d : Char} {more : Text}
    (h : source rest = d :: more) : d = '$' ∨ d = '@' := by
  cases rest with
  | nil => cases h
  | cons segment rest =>
    cases segment with
    | literal text => exact absurd trivial hapart
    | column selector => exact .inl (List.cons.inj h).1.symm
    | call name args => exact .inr (List.cons.inj h).1.symm

/-- **The seam** of a literal and the segment after it makes no new construct. -/
theorem not_opens_seam {text : Text} {rest : Program} (hne : text ≠ [])
    (hno : ∀ construct body, ¬ Opens construct body text) (hapart : ¬ StartsLiteral rest)
    (construct : Construct) (body : Text) : ¬ Opens construct body (text ++ source rest) := by
  intro h
  rcases h.append_cases with ⟨inner, hinner, -⟩ | ⟨name, hsource, -, -, hname⟩
  · exact hno construct inner hinner
  · -- `$` and `@`, with which the rest begins, are neither parenthesis nor name character
    cases name with
    | nil =>
      have := source_head hapart hsource
      exact absurd this (by decide)
    | cons c name =>
      have hc := hname hne c (by simp)
      rcases source_head hapart hsource with rfl | rfl <;> exact absurd hc (by decide)

theorem NoConstruct.tail {c : Char} {text : Text} (h : NoConstruct (c :: text)) :
    NoConstruct text := by
  intro before after construct body htext
  exact h (c :: before) after construct body (by rw [htext]; rfl)

theorem noConstruct_cons {c : Char} {text : Text}
    (hhead : ∀ construct body, ¬ Opens construct body (c :: text)) (hrest : NoConstruct text) :
    NoConstruct (c :: text) := by
  intro before after construct body htext
  cases before with
  | nil =>
    rw [List.nil_append] at htext
    rw [← htext]
    exact hhead construct body
  | cons d before => exact hrest before after construct body (List.cons.inj htext).2

theorem pushLiteral_apart {program : Program} (hapart : ¬ StartsLiteral program) (c : Char) :
    Compiled.pushLiteral c ⟨program, []⟩ = ⟨.literal [c] :: program, []⟩ := by
  unfold Compiled.pushLiteral
  split
  · rename_i text rest h
    obtain rfl : program = .literal text :: rest := h
    exact absurd trivial hapart
  · rfl

/-- A literal is compiled to itself where no literal follows. -/
theorem compileFrom_literal_source {text : Text} {rest : Program} (hne : text ≠ [])
    (hno : NoConstruct text) (hapart : ¬ StartsLiteral rest)
    (ih : ∀ offset, compileFrom offset (source rest) = ⟨rest, []⟩) (offset : Nat) :
    compileFrom offset (text ++ source rest) = ⟨.literal text :: rest, []⟩ := by
  induction text generalizing offset with
  | nil => exact absurd rfl hne
  | cons c text ihtext =>
    have hhead := not_opens_seam hne (fun construct body => hno [] _ construct body rfl) hapart
    rw [List.cons_append] at hhead ⊢
    rw [compileFrom_literal offset hhead]
    cases text with
    | nil =>
      rw [List.nil_append, ih]
      exact pushLiteral_apart hapart c
    | cons d text =>
      rw [ihtext (by simp) hno.tail]
      rfl

theorem compileArgs_source {args : List Program}
    (ih : ∀ arg ∈ args, ∀ offset, compileFrom offset (source arg) = ⟨arg, []⟩) (offset : Nat) :
    compileArgs offset (args.map source) = (args, []) := by
  induction args generalizing offset with
  | nil => exact compileArgs_nil offset
  | cons arg args ihargs =>
    rw [List.map_cons, compileArgs_cons, ih arg (by simp),
      ihargs fun arg ha => ih arg (by simp [ha])]
    rfl

/-- **A canonical program is compiled from its source text.** -/
theorem compileFrom_source {program : Program} (h : Canonical program) (offset : Nat) :
    compileFrom offset (source program) = ⟨program, []⟩ := by
  induction h generalizing offset with
  | nil => exact compileFrom_nil offset
  | @literal text rest hne hno hapart _ ih =>
    exact compileFrom_literal_source hne hno hapart ih offset
  | @column selector rest hbalanced _ ih =>
    have hscan := Group.scan_close (Group.piece_whole_iff.mpr hbalanced) (source rest)
    have hsource : source (.column selector :: rest)
        = '$' :: '(' :: (selector ++ ')' :: source rest) := by
      simp [source, segmentSource]
    rw [hsource, compileFrom_column, hscan, ih]
    rfl
  | @call name args rest hne hname hargs _ hargsource _ ihargs ih =>
    cases args with
    | nil => exact absurd rfl hargs
    | cons arg args =>
      have hpiece : ∀ arg' ∈ arg :: args, Group.Piece true 0 (source arg') := fun arg' ha =>
        Group.piece_split_iff.mpr (hargsource arg' ha)
      have hmore : ∀ piece ∈ args.map source, Group.Piece true 0 piece := by
        intro piece hp
        obtain ⟨arg', ha, rfl⟩ := List.mem_map.mp hp
        exact hpiece arg' (by simp [ha])
      have hscan := Group.scan_join (hpiece arg (by simp)) hmore (source rest)
      have hsource : source (.call name (arg :: args) :: rest)
          = '@' :: name ++ '(' :: (Text.join [','] (source arg :: args.map source)
            ++ ')' :: source rest) := by
        simp [source, segmentSource, argsSource_eq]
      have hpieces : Group.pieces ⟨source arg, args.map source, source rest, true⟩
          = (arg :: args).map source := rfl
      rw [hsource, compileFrom_call offset hne hname, hscan, ih, hpieces,
        compileArgs_source ihargs]
      rfl

/-! ## From patterns to programs -/

/-- A literal that grows at the front stays one. -/
theorem canonical_pushLiteral {c : Char} {compiled : Compiled}
    (hcanonical : Canonical compiled.program)
    (hno : ∀ construct body, ¬ Opens construct body (c :: source compiled.program)) :
    Canonical (compiled.pushLiteral c).program := by
  have hhead : ∀ text more, source compiled.program = text ++ more →
      ∀ construct body, ¬ Opens construct body (c :: text) := by
    intro text more hsource construct body h
    refine hno construct (body ++ more) ?_
    rw [hsource]
    exact h.append more
  obtain ⟨program, issues⟩ := compiled
  unfold Compiled.pushLiteral
  split
  · rename_i text rest h
    obtain rfl : program = .literal text :: rest := h
    cases hcanonical with
    | literal hne hnoText hapart hrest =>
      exact .literal (by simp) (noConstruct_cons (hhead text (source rest) rfl) hnoText) hapart hrest
  · rename_i hliteral
    refine .literal (by simp) (noConstruct_cons (hhead [] _ rfl) ?_) ?_ hcanonical
    · intro before after construct body htext h
      obtain ⟨-, rfl⟩ := List.append_eq_nil_iff.mp htext.symm
      cases h
    · intro hstarts
      cases program with
      | nil => exact hstarts
      | cons segment rest =>
        cases segment with
        | literal text => exact hliteral text rest rfl
        | column | call => exact hstarts

theorem canonical_compileArgs {pieces : List Text}
    (hpieces : ∀ piece ∈ pieces, Group.Piece true 0 piece)
    (ih : ∀ piece ∈ pieces, ∀ offset, (compileFrom offset piece).issues = [] →
      Canonical (compileFrom offset piece).program) (offset : Nat) :
    ∀ arg ∈ (compileArgs offset pieces).1,
      Canonical arg ∧ Balanced (source arg) ∧ NoOuterComma (source arg) := by
  induction pieces generalizing offset with
  | nil => simp [compileArgs_nil]
  | cons piece more ihmore =>
    have hpiece := hpieces piece (by simp)
    have hnone := issues_of_opens_eq_zero hpiece.opens_eq offset
    have hsource : source (compileFrom offset piece).program = piece := by
      rw [source_compileFrom, hnone]
      simp
    intro arg harg
    rw [compileArgs_cons] at harg
    rcases List.mem_cons.mp harg with rfl | harg
    · rw [hsource]
      exact ⟨ih piece (by simp) offset hnone, Group.piece_split_iff.mp hpiece⟩
    · exact ihmore (fun piece hp => hpieces piece (by simp [hp]))
        (fun piece hp => ih piece (by simp [hp])) _ arg harg

theorem closed_of_groupIssues {offset : Nat} {group : Group} {issues : List Nat}
    (h : groupIssues offset group ++ issues = []) : group.closed = true ∧ issues = [] := by
  obtain ⟨hgroup, hissues⟩ := List.append_eq_nil_iff.mp h
  unfold groupIssues at hgroup
  split at hgroup
  · rename_i hclosed
    exact ⟨hclosed, hissues⟩
  · cases hgroup

/-- **A pattern without issues is compiled to a canonical program.** -/
theorem canonical_compileFrom (text : Text) (offset : Nat)
    (hnone : (compileFrom offset text).issues = []) :
    Canonical (compileFrom offset text).program := by
  induction text using induct generalizing offset with
  | nil =>
    rw [compileFrom_nil]
    exact .nil
  | literal c text hno ih =>
    rw [compileFrom_literal offset hno] at hnone ⊢
    rw [issues_pushLiteral] at hnone
    have hsource := source_compileFrom text (offset + c.utf8Size)
    rw [hnone, List.length_nil, List.replicate_zero, List.append_nil] at hsource
    exact canonical_pushLiteral (ih _ hnone) (by rwa [hsource])
  | column body ih =>
    rw [compileFrom_column] at hnone ⊢
    obtain ⟨hclosed, hrest⟩ := closed_of_groupIssues hnone
    exact .column (Group.scan_whole_of_closed hclosed).2 (ih _ hrest)
  | call name body hne hname ihpieces ih =>
    rw [compileFrom_call offset hne hname] at hnone ⊢
    rw [issues_pushConstruct, List.append_assoc] at hnone
    obtain ⟨hclosed, hissues⟩ := closed_of_groupIssues hnone
    obtain ⟨-, hrest⟩ := List.append_eq_nil_iff.mp hissues
    obtain ⟨-, hpieces⟩ := Group.scan_of_closed hclosed
    have hargs := canonical_compileArgs hpieces ihpieces (offset + Text.utf8Size name + 2)
    refine .call hne hname ?_ (fun arg ha => (hargs arg ha).1) (fun arg ha => (hargs arg ha).2)
      (ih _ hrest)
    rw [Group.pieces, compileArgs_cons]
    simp

theorem compileStrict_iff {pattern : Text} {program : Program} :
    compileStrict pattern = .ok program ↔ Canonical program ∧ source program = pattern := by
  constructor
  · intro h
    obtain ⟨hnone, rfl⟩ := compileStrict_eq_ok.mp h
    exact ⟨canonical_compileFrom pattern 0 hnone, source_of_compileStrict h⟩
  · rintro ⟨hcanonical, rfl⟩
    have h := compileFrom_source hcanonical 0
    exact compileStrict_eq_ok.mpr ⟨by rw [diagnose, h], by rw [compile, h]⟩

/-- **Compiling accepts the grammar and inverts writing**: strict compilation of the source text of
a canonical program gives the program back, patterns without issues have canonical programs, and so
strict compilation is a bijection between the two. -/
theorem compileStrict_bijection :
    (∀ program, Canonical program → compileStrict (source program) = .ok program) ∧
      (∀ pattern, diagnose pattern = [] → Canonical (compile pattern)) ∧
      Set.BijOn compileStrict {pattern | diagnose pattern = []}
        (Except.ok '' {program | Canonical program}) := by
  have haccepted : ∀ {pattern}, diagnose pattern = [] →
      compileStrict pattern = .ok (compile pattern) := fun hnone =>
    compileStrict_eq_ok.mpr ⟨hnone, rfl⟩
  refine ⟨fun program h => compileStrict_iff.mpr ⟨h, rfl⟩,
    fun pattern hnone => canonical_compileFrom pattern 0 hnone, ?_, ?_, ?_⟩
  · intro pattern hnone
    exact ⟨compile pattern, canonical_compileFrom pattern 0 hnone, (haccepted hnone).symm⟩
  · intro p hp q hq heq
    have hsame : compileStrict q = .ok (compile p) := by rw [← heq, haccepted hp]
    rw [← source_of_compileStrict (haccepted hp), source_of_compileStrict hsame]
  · rintro _ ⟨program, hcanonical, rfl⟩
    have h := compileStrict_iff.mpr ⟨hcanonical, rfl⟩
    exact ⟨source program, (compileStrict_eq_ok.mp h).1, h⟩

end Rowwise.Pattern
