import Mathlib
import Rowwise.Proofs.Pattern.Determinism
import Rowwise.Proofs.Pattern.Grammar

/-!
# Pattern — Concatenation

When two patterns one after the other compile to their two programs, one after the other. The first
has to be without issues, so that each of its constructs is closed where the second begins; and the
second may not begin with what a construct's opening could go on with (`Apart`), which is a name
character or the parenthesis. Then no construct reaches from one into the other, the compiler comes
to the second pattern as it would to any (`compileFrom_append`), and the only difference is that
fixed text on both sides of the seam is one segment (`Program.fuse`).

Issues are byte positions, so those of the second pattern move by the bytes of the first
(`compileFrom_move`). A program that is fused renders like its two parts in a row, with the draws
that the first has left (`Prepared.renderSegments_fuse`).
-/

namespace Rowwise

namespace Program

/-- Two programs in a row. Fixed text that ends the first and fixed text that begins the second are
one segment. -/
def fuse (first second : List Segment) : List Segment :=
  match first.getLast?, second with
  | some (.literal a), .literal b :: rest => first.dropLast ++ .literal (a ++ b) :: rest
  | _, _ => first ++ second

variable {first second : Program}

@[simp] theorem fuse_nil (second : Program) : fuse [] second = second := rfl

theorem fuse_literals (a b : Text) (rest : Program) :
    fuse [.literal a] (.literal b :: rest) = .literal (a ++ b) :: rest := rfl

theorem fuse_cons_cons (segment next : Segment) (rest second : Program) :
    fuse (segment :: next :: rest) second = segment :: fuse (next :: rest) second := by
  unfold fuse
  rw [List.getLast?_cons_cons]
  split
  · rfl
  · rfl

/-- A construct stays as it is. -/
theorem fuse_construct {segment : Segment} (h : ∀ text, segment ≠ .literal text)
    (rest second : Program) : fuse (segment :: rest) second = segment :: fuse rest second := by
  cases rest with
  | nil =>
    cases segment with
    | literal text => exact absurd rfl (h text)
    | column selector => rfl
    | call name args => rfl
  | cons next rest => exact fuse_cons_cons segment next rest second

/-- Either nothing is merged, or the two literals at the seam are. -/
theorem fuse_cases (first second : Program) :
    fuse first second = first ++ second ∨
      ∃ front a b rest, first = front ++ [.literal a] ∧ second = .literal b :: rest ∧
        fuse first second = front ++ .literal (a ++ b) :: rest := by
  unfold fuse
  split
  · rename_i a b rest hlast
    obtain ⟨front, rfl⟩ := List.getLast?_eq_some_iff.mp hlast
    exact .inr ⟨front, a, b, rest, rfl, rfl, by simp⟩
  · exact .inl rfl

end Program

namespace Compiled

open Program (fuse fuse_nil fuse_literals fuse_cons_cons fuse_construct)

/-- The outcomes for two patterns in a row. -/
def append (a b : Compiled) : Compiled :=
  ⟨fuse a.program b.program, a.issues ++ b.issues⟩

/-- The outcome for a pattern that begins so many bytes later. -/
def move (bytes : Nat) (compiled : Compiled) : Compiled :=
  { compiled with issues := compiled.issues.map (bytes + ·) }

/-- Fixed text in front of a construct is a segment of its own. -/
theorem pushLiteral_construct {segment : Segment} (h : ∀ text, segment ≠ .literal text) (c : Char)
    (rest : Program) (issues : List Nat) :
    pushLiteral c ⟨segment :: rest, issues⟩ = ⟨.literal [c] :: segment :: rest, issues⟩ := by
  cases segment with
  | literal text => exact absurd rfl (h text)
  | column selector => rfl
  | call name args => rfl

theorem pushConstruct_append {segment : Segment} (h : ∀ text, segment ≠ .literal text)
    (issues : List Nat) (a b : Compiled) :
    (a.pushConstruct segment issues).append b = (a.append b).pushConstruct segment issues := by
  simp [append, pushConstruct, fuse_construct h]

/-- **Fixed text at the front** grows as it does without a second pattern. -/
theorem pushLiteral_append (c : Char) (a b : Compiled) :
    (a.pushLiteral c).append b = (a.append b).pushLiteral c := by
  obtain ⟨program, issues⟩ := a
  obtain ⟨second, more⟩ := b
  cases program with
  | nil =>
    -- the character is the end of the first program, so it goes to what the second begins with
    cases second with
    | nil => rfl
    | cons segment rest => cases segment <;> rfl
  | cons segment rest =>
    by_cases hliteral : ∃ text, segment = .literal text
    · obtain ⟨text, rfl⟩ := hliteral
      cases rest with
      | nil =>
        cases second with
        | nil => rfl
        | cons other rest => cases other <;> rfl
      | cons next rest => simp only [pushLiteral, append, fuse_cons_cons]
    · have hconstruct : ∀ text, segment ≠ .literal text := fun text h => hliteral ⟨text, h⟩
      rw [pushLiteral_construct hconstruct]
      simp only [append, fuse_cons_cons, fuse_construct hconstruct, pushLiteral_construct hconstruct]

theorem pushLiteral_move (bytes : Nat) (c : Char) (compiled : Compiled) :
    (compiled.pushLiteral c).move bytes = (compiled.move bytes).pushLiteral c := by
  obtain ⟨program, issues⟩ := compiled
  unfold pushLiteral move
  dsimp only
  split <;> rfl

theorem pushConstruct_move (bytes : Nat) (segment : Segment) (issues : List Nat)
    (compiled : Compiled) :
    (compiled.pushConstruct segment issues).move bytes
      = (compiled.move bytes).pushConstruct segment (issues.map (bytes + ·)) := by
  simp [move, pushConstruct]

end Compiled

/-! ## Compiling -/

/-- A closed group is found again in any longer text. -/
theorem Group.scan_longer {split : Bool} {d : Nat} {text : Text}
    (h : (scan split d text).closed = true) (more : Text) :
    scan split d (text ++ more)
      = { scan split d text with rest := (scan split d text).rest ++ more } := by
  induction text generalizing d with
  | nil => cases h
  | cons c text ih =>
    rw [scan_cons] at h
    rw [List.cons_append, scan_cons, scan_cons]
    grind [push, part]

namespace Pattern

open Program (fuse)

/-- The text cannot go on with what begins a construct before it. -/
def Apart (text : Text) : Prop :=
  ∀ c, text.head? = some c → c ≠ '(' ∧ isNameChar c = false

/-- No construct that begins in a text gets its parenthesis from a text apart. -/
theorem not_opens_append {text more : Text} (hne : text ≠ [])
    (hno : ∀ construct body, ¬ Opens construct body text) (hapart : Apart more)
    (construct : Construct) (body : Text) : ¬ Opens construct body (text ++ more) := by
  intro h
  rcases h.append_cases with ⟨inner, hinner, -⟩ | ⟨name, hmore, -, -, hname⟩
  · exact hno construct inner hinner
  · cases name with
    | nil =>
      obtain ⟨hparen, -⟩ := hapart '(' (by rw [hmore]; rfl)
      exact hparen rfl
    | cons c name =>
      obtain ⟨-, hplain⟩ := hapart c (by rw [hmore]; rfl)
      rw [hname hne c (by simp)] at hplain
      cases hplain

/-! ### At another position -/

theorem groupIssues_move (bytes offset : Nat) (group : Group) :
    groupIssues (bytes + offset) group = (groupIssues offset group).map (bytes + ·) := by
  unfold groupIssues
  split <;> rfl

theorem compileArgs_move {pieces : List Text} {bytes : Nat}
    (ih : ∀ piece ∈ pieces, ∀ offset,
      compileFrom (bytes + offset) piece = (compileFrom offset piece).move bytes) (offset : Nat) :
    compileArgs (bytes + offset) pieces
      = ((compileArgs offset pieces).1, (compileArgs offset pieces).2.map (bytes + ·)) := by
  induction pieces generalizing offset with
  | nil => simp [compileArgs_nil]
  | cons piece more ihmore =>
    have hmore := ihmore (fun piece hp => ih piece (by simp [hp]))
      (offset + Text.utf8Size piece + 1)
    simp only [compileArgs_cons, Nat.add_assoc] at hmore ⊢
    rw [hmore, ih piece (by simp)]
    simp [Compiled.move]

/-- **Where a pattern begins** matters to the positions of its issues only. -/
theorem compileFrom_move (bytes offset : Nat) (text : Text) :
    compileFrom (bytes + offset) text = (compileFrom offset text).move bytes := by
  induction text using induct generalizing offset with
  | nil => simp [Compiled.move]
  | literal c text hno ih =>
    rw [compileFrom_literal _ hno, compileFrom_literal _ hno, Compiled.pushLiteral_move, ← ih,
      Nat.add_assoc]
  | column body ih =>
    rw [compileFrom_column, compileFrom_column, Compiled.pushConstruct_move, ← ih,
      groupIssues_move]
    simp only [Nat.add_assoc]
  | call name body hne hname ihpieces ih =>
    have hargs := compileArgs_move ihpieces (offset + Text.utf8Size name + 2)
    rw [compileFrom_call _ hne hname, compileFrom_call _ hne hname, Compiled.pushConstruct_move,
      ← ih, List.map_append, ← groupIssues_move]
    simp only [Nat.add_assoc] at hargs ⊢
    rw [hargs]

/-! ### After another pattern -/

/-- The bytes of a group and of the text after it. -/
theorem utf8Size_scan (split : Bool) (body : Text) :
    Text.utf8Size (Group.scan split 0 body).source + Text.utf8Size (Group.scan split 0 body).rest
      = Text.utf8Size body := by
  rw [← Text.utf8Size_append, Group.source_append_rest]

/-- **After a pattern without issues** the compiler comes to what follows as it would without it. -/
theorem compileFrom_append {text more : Text} (hapart : Apart more) (offset : Nat)
    (hnone : (compileFrom offset text).issues = []) :
    compileFrom offset (text ++ more)
      = (compileFrom offset text).append (compileFrom (offset + Text.utf8Size text) more) := by
  induction text using induct generalizing offset with
  | nil => simp [Compiled.append]
  | literal c text hno ih =>
    rw [compileFrom_literal offset hno, issues_pushLiteral] at hnone
    have hseam := not_opens_append (List.cons_ne_nil c text) hno hapart
    rw [List.cons_append] at hseam ⊢
    rw [compileFrom_literal offset hseam, compileFrom_literal offset hno, ih _ hnone,
      Compiled.pushLiteral_append, Text.utf8Size_cons, Nat.add_assoc]
  | column body ih =>
    rw [compileFrom_column, issues_pushConstruct] at hnone
    obtain ⟨hclosed, hrest⟩ := closed_of_groupIssues hnone
    have hoffset : offset + Text.utf8Size ('$' :: '(' :: body)
        = offset + 2 + Text.utf8Size (Group.scan false 0 body).source
          + Text.utf8Size (Group.scan false 0 body).rest := by
      have hsize := utf8Size_scan false body
      simp only [Text.utf8Size_cons, show '$'.utf8Size = 1 from rfl, show '('.utf8Size = 1 from rfl]
      omega
    have hwhole : '$' :: '(' :: body ++ more = '$' :: '(' :: (body ++ more) := rfl
    rw [hwhole, compileFrom_column, Group.scan_longer hclosed, compileFrom_column, hoffset,
      Compiled.pushConstruct_append (by simp), ← ih _ hrest]
    rfl
  | call name body hne hname _ ih =>
    rw [compileFrom_call offset hne hname, issues_pushConstruct, List.append_assoc] at hnone
    obtain ⟨hclosed, hissues⟩ := closed_of_groupIssues hnone
    obtain ⟨-, hrest⟩ := List.append_eq_nil_iff.mp hissues
    have hoffset : offset + Text.utf8Size ('@' :: name ++ '(' :: body)
        = offset + Text.utf8Size name + 2 + Text.utf8Size (Group.scan true 0 body).source
          + Text.utf8Size (Group.scan true 0 body).rest := by
      have hsize := utf8Size_scan true body
      simp only [Text.utf8Size_append, Text.utf8Size_cons, show '@'.utf8Size = 1 from rfl,
        show '('.utf8Size = 1 from rfl]
      omega
    have hwhole : '@' :: name ++ '(' :: body ++ more = '@' :: name ++ '(' :: (body ++ more) := by
      simp
    rw [hwhole, compileFrom_call offset hne hname, Group.scan_longer hclosed,
      compileFrom_call offset hne hname, hoffset, Compiled.pushConstruct_append (by simp),
      ← ih _ hrest]
    rfl

theorem compile_diagnose_append {text more : Text} (hapart : Apart more)
    (hnone : diagnose text = []) :
    compile (text ++ more) = fuse (compile text) (compile more) ∧
      diagnose (text ++ more) = (diagnose more).map (Text.utf8Size text + ·) := by
  have happend := compileFrom_append hapart 0 hnone
  have hmove := compileFrom_move (Text.utf8Size text) 0 more
  rw [Nat.add_zero] at hmove
  rw [Nat.zero_add, hmove] at happend
  constructor
  · rw [compile, happend]
    rfl
  · rw [diagnose, happend, Compiled.append, show (compileFrom 0 text).issues = [] from hnone]
    rfl

end Pattern

/-! ## Rendering -/

theorem Rendered.empty_append (a : Rendered) : Rendered.empty.append a = a := by
  simp [Rendered.append, Rendered.empty]

theorem Rendered.append_assoc (a b c : Rendered) :
    (a.append b).append c = a.append (b.append c) := by
  simp [Rendered.append, Nat.add_assoc]

namespace Prepared

open Program (fuse fuse_cases)

theorem prepareSegments_append (first second : Program) :
    prepareSegments (first ++ second) = prepareSegments first ++ prepareSegments second := by
  induction first with
  | nil => rfl
  | cons segment rest ih => simp [prepareSegments, ih]

theorem renderNodes_append (context : Context) (draws : Draws) (first second : List Node) :
    renderNodes context draws (first ++ second) =
      let (a, left) := renderNodes context draws first
      let (b, left) := renderNodes context left second
      (a.append b, left) := by
  induction first generalizing draws with
  | nil => simp [renderNodes, Rendered.empty_append]
  | cons node rest ih => simp [renderNodes, ih, Rendered.append_assoc]

theorem nodesDeterministic_append (first second : List Node) :
    nodesDeterministic (first ++ second)
      = (nodesDeterministic first && nodesDeterministic second) := by
  induction first with
  | nil => rfl
  | cons node rest ih => simp [nodesDeterministic, ih, Bool.and_assoc]

/-- **Merging fixed text does not show**: a fused program renders like its parts in a row. -/
theorem renderSegments_fuse (context : Context) (draws : Draws) (first second : Program) :
    renderNodes context draws (prepareSegments (fuse first second))
      = renderNodes context draws (prepareSegments first ++ prepareSegments second) := by
  rcases fuse_cases first second with h | ⟨front, a, b, rest, rfl, rfl, h⟩
  · rw [h, prepareSegments_append]
  · rw [h, prepareSegments_append, prepareSegments_append, List.append_assoc, renderNodes_append,
      renderNodes_append]
    simp [prepareSegments, prepareSegment, renderNodes, renderNode, Rendered.append, Rendered.ok]

theorem nodesDeterministic_fuse (first second : Program) :
    nodesDeterministic (prepareSegments (fuse first second))
      = (nodesDeterministic (prepareSegments first)
        && nodesDeterministic (prepareSegments second)) := by
  rcases fuse_cases first second with h | ⟨front, a, b, rest, rfl, rfl, h⟩
  · rw [h, prepareSegments_append, nodesDeterministic_append]
  · rw [h, prepareSegments_append, prepareSegments_append, nodesDeterministic_append,
      nodesDeterministic_append]
    simp [prepareSegments, prepareSegment, nodesDeterministic, nodeDeterministic]

/-- A fused program without random draws has the lines of its parts, whatever draws each of the
three is given. -/
theorem renderLine_fuse {first second : Program}
    (h : (ofProgram (fuse first second)).isDeterministic) (context : Context)
    (draws draws' draws'' : Draws) :
    ((ofProgram (fuse first second)).renderLine context draws).1
      = ((ofProgram first).renderLine context draws').1.append
        ((ofProgram second).renderLine context draws'').1 := by
  rw [isDeterministic, ofProgram, nodesDeterministic_fuse, Bool.and_eq_true_iff] at h
  obtain ⟨a, ha⟩ := renderNodes_of_deterministic context _ h.1
  obtain ⟨b, hb⟩ := renderNodes_of_deterministic context _ h.2
  simp [renderLine, ofProgram, renderSegments_fuse, renderNodes_append, ha, hb]

end Prepared

namespace Pattern

open Program (fuse)
open Prepared (ofProgram)

/-- **Compiling goes piece by piece.** Let a pattern be without issues, and let what follows it begin
neither with a parenthesis nor with a character of names. Then the two together compile to their
programs in a row, the fixed text at the seam being one segment; the issues are those of the second
pattern, as many bytes later as the first has. So if no random number is drawn, the line of both for
any headers and row is the line of the first followed by the line of the second, and so are the
substitutions counted. -/
theorem compile_concatenation {first second : Text} (hnone : diagnose first = [])
    (hapart : Apart second) :
    compile (first ++ second) = fuse (compile first) (compile second) ∧
      diagnose (first ++ second) = (diagnose second).map (Text.utf8Size first + ·) ∧
      ((ofProgram (compile (first ++ second))).isDeterministic →
        ∀ context draws draws' draws'',
          ((ofProgram (compile (first ++ second))).renderLine context draws).1
            = ((ofProgram (compile first)).renderLine context draws').1.append
              ((ofProgram (compile second)).renderLine context draws'').1) := by
  obtain ⟨hprogram, hissues⟩ := compile_diagnose_append hapart hnone
  refine ⟨hprogram, hissues, ?_⟩
  rw [hprogram]
  exact fun h context draws draws' draws'' => Prepared.renderLine_fuse h context draws draws' draws''

/-- A possible name at the seam, a character of two bytes, and a second pattern that leaves two
constructs open. -/
theorem compile_concatenation_seam :
    let first : Text := ['$', '(', '0', ')', 'é', '@', 'b']
    let second : Text := ['-', '@', 't', 'r', 'i', 'm', '(', '$', '(', '1']
    diagnose first = [] ∧ Apart second ∧
      compile (first ++ second) = [.column ['0'], .literal ['é', '@', 'b', '-'],
        .call ['t', 'r', 'i', 'm'] [[.column ['1']]]] ∧
      diagnose (first ++ second) = [9, 15] ∧
      ((ofProgram (compile (first ++ second))).renderLine ⟨[], [['x'], [' ', 'y']]⟩ ⟨id, 0⟩).1
        = ⟨['x', 'é', '@', 'b', '-', 'y'], 0⟩ := by
  intro first second
  have hnone : diagnose first = [] := by cbv
  have hapart : Apart second := by
    intro c hc
    obtain rfl : '-' = c := Option.some.inj hc
    decide
  have hfirst : compile first = [.column ['0'], .literal ['é', '@', 'b']] := by cbv
  have hsecond : compile second
      = [.literal ['-'], .call ['t', 'r', 'i', 'm'] [[.column ['1']]]] := by cbv
  have hissues : diagnose second = [1, 7] := by cbv
  obtain ⟨hprogram, hmoved, hline⟩ := compile_concatenation hnone hapart
  rw [hfirst, hsecond] at hprogram hline
  rw [hissues] at hmoved
  refine ⟨hnone, hapart, hprogram, hmoved, ?_⟩
  rw [hline (by rw [hprogram]; decide) _ _ ⟨id, 0⟩ ⟨id, 0⟩]
  decide

end Pattern

end Rowwise
