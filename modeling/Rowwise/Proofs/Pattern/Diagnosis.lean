import Rowwise.Proofs.Pattern.Unmatched

/-!
# Pattern — Diagnosis

Which byte positions `diagnose` lists: those of the unmatched constructs, from left to right. The
compiler stops looking at the first unclosed column, whose selector runs to the end of the pattern;
in an unclosed call it goes on with the pieces, of which only the last can hold further unmatched
constructs. That piece reaches to the end of the pattern, so what is unmatched in it is unmatched
in the pattern.
-/

namespace Rowwise.Pattern

open Rowwise.Text (opens)

/-! ## Up to the first column -/

/-- The positions up to that of the first column. -/
def upToColumn : List (Nat × Construct) → List Nat
  | [] => []
  | (position, .column) :: _ => [position]
  | (position, .call) :: places => position :: upToColumn places

theorem mem_upToColumn {places : List (Nat × Construct)}
    (hsorted : places.Pairwise fun a b => a.1 < b.1) {position : Nat} :
    position ∈ upToColumn places ↔ (∃ construct, (position, construct) ∈ places) ∧
      ∀ earlier < position, (earlier, Construct.column) ∉ places := by
  induction places with
  | nil => simp [upToColumn]
  | cons place places ih =>
    obtain ⟨first, construct⟩ := place
    obtain ⟨hfirst, hrest⟩ := List.pairwise_cons.mp hsorted
    cases construct with
    | column =>
      rw [upToColumn, List.mem_singleton]
      constructor
      · rintro rfl
        refine ⟨⟨.column, List.mem_cons_self⟩, fun earlier hlt hmem => ?_⟩
        rcases List.mem_cons.mp hmem with h | h
        · cases h
          omega
        · have := hfirst _ h
          simp only at this
          omega
      · rintro ⟨⟨construct, hmem⟩, hnone⟩
        rcases List.mem_cons.mp hmem with h | h
        · cases h
          rfl
        · exact absurd List.mem_cons_self (hnone first (hfirst _ h))
    | call =>
      rw [upToColumn, List.mem_cons, ih hrest]
      constructor
      · rintro (rfl | ⟨⟨construct, hmem⟩, hnone⟩)
        · refine ⟨⟨.call, List.mem_cons_self⟩, fun earlier hlt hmem => ?_⟩
          have := hfirst _ ((List.mem_cons.mp hmem).resolve_left (by simp))
          simp only at this
          omega
        · exact ⟨⟨construct, List.mem_cons_of_mem _ hmem⟩, fun earlier hlt h =>
            hnone earlier hlt ((List.mem_cons.mp h).resolve_left (by simp))⟩
      · rintro ⟨⟨construct, hmem⟩, hnone⟩
        rcases List.mem_cons.mp hmem with h | h
        · cases h
          exact .inl rfl
        · exact .inr ⟨⟨construct, h⟩, fun earlier hlt h' =>
            hnone earlier hlt (List.mem_cons_of_mem _ h')⟩

theorem head?_eq_some_iff_least {places : List (Nat × Construct)}
    (hsorted : places.Pairwise fun a b => a.1 < b.1) {position : Nat} :
    places.head?.map (·.1) = some position ↔ (∃ construct, (position, construct) ∈ places) ∧
      ∀ earlier < position, ∀ construct, (earlier, construct) ∉ places := by
  cases places with
  | nil => simp
  | cons place places =>
    obtain ⟨hfirst, -⟩ := List.pairwise_cons.mp hsorted
    constructor
    · intro h
      obtain rfl : place.1 = position := by simpa using h
      refine ⟨⟨place.2, List.mem_cons_self⟩, fun earlier hlt construct hmem => ?_⟩
      rcases List.mem_cons.mp hmem with rfl | h
      · exact Nat.lt_irrefl _ hlt
      · exact Nat.lt_asymm hlt (hfirst _ h)
    · rintro ⟨⟨construct, hmem⟩, hnone⟩
      rcases List.mem_cons.mp hmem with rfl | h
      · rfl
      · exact absurd List.mem_cons_self (hnone place.1 (hfirst _ h) place.2)

theorem upToColumn_sublist (places : List (Nat × Construct)) :
    (upToColumn places).Sublist (places.map (·.1)) := by
  induction places with
  | nil => exact .slnil
  | cons place places ih =>
    obtain ⟨position, construct⟩ := place
    cases construct with
    | column => exact .cons_cons _ (List.nil_sublist _)
    | call => exact ih.cons_cons _

theorem head?_upToColumn (places : List (Nat × Construct)) :
    (upToColumn places).head? = places.head?.map (·.1) := by
  cases places with
  | nil => rfl
  | cons place places =>
    obtain ⟨position, construct⟩ := place
    cases construct <;> rfl

/-! ## What the compiler finds -/

/-- **In the pieces of a call** only the last can hold an unmatched construct, and what is found
there is what the pieces with their commas hold. -/
theorem issues_compileArgs {closed : Bool} {first : Text} {more : List Text}
    (hparts : Group.Parts true closed 0 first more)
    (ih : ∀ piece ∈ first :: more, ∀ offset,
      (compileFrom offset piece).issues = upToColumn (unmatchedFrom offset piece))
    (offset : Nat) :
    (compileArgs offset (first :: more)).2
      = upToColumn (unmatchedFrom offset (Text.join [','] (first :: more))) := by
  induction more generalizing first offset with
  | nil =>
    rw [compileArgs_cons, compileArgs_nil, List.append_nil, ih first (by simp)]
    rfl
  | cons next more ihmore =>
    obtain ⟨hfirst, hrest⟩ := hparts
    -- a comma ended this piece, so everything opened in it is closed in it
    have hnone : (compileFrom offset first).issues = [] := by
      rw [ih first (by simp), unmatchedFrom_eq_nil hfirst.opens_eq]
      rfl
    have hjoin : Text.join [','] (first :: next :: more)
        = first ++ ',' :: Text.join [','] (next :: more) := by
      simp [Text.join]
    have hcut : opens (first ++ [',']) = 0 := by
      rw [Text.opens_append, hfirst.opens_eq]
      decide
    rw [compileArgs_cons, hnone, List.nil_append, hjoin, unmatchedFrom_closed (.inr rfl) hcut,
      ihmore hrest fun piece hp => ih piece (by simp [hp])]
    simp [Nat.add_assoc, show ','.utf8Size = 1 from rfl]

/-- **What the compiler finds**: the unmatched constructs, up to the first column. -/
theorem issues_compileFrom (text : Text) (offset : Nat) :
    (compileFrom offset text).issues = upToColumn (unmatchedFrom offset text) := by
  induction text using induct generalizing offset with
  | nil => simp [unmatchedFrom, upToColumn]
  | literal c text hno ih =>
    have hhead : unmatchedHead? (c :: text) = none := by
      rw [Option.eq_none_iff_forall_ne_some]
      intro construct h
      obtain ⟨body, hbegin, -⟩ := unmatchedHead?_eq_some_iff.mp h
      exact hno construct body hbegin
    rw [compileFrom_literal offset hno, issues_pushLiteral, ih, unmatchedFrom_of_none hhead]
  | column body ih =>
    rw [compileFrom_column, issues_pushConstruct, ih]
    cases hclosed : (Group.scan false 0 body).closed with
    | true =>
      rw [unmatchedFrom_column_of_closed hclosed, groupIssues, if_pos hclosed]
      rfl
    | false =>
      -- the selector takes all of the text, and what is unmatched in it goes unreported
      rw [unmatchedFrom_column_of_not_closed hclosed, Group.rest_of_not_closed hclosed,
        groupIssues, hclosed]
      rfl
  | call name body hne hname ihpieces ih =>
    have hargs := issues_compileArgs (Group.scan_parts true 0 body) ihpieces
      (offset + Text.utf8Size name + 2)
    rw [compileFrom_call offset hne hname, issues_pushConstruct, ih, Group.pieces, hargs,
      ← Group.pieces]
    cases hclosed : (Group.scan true 0 body).closed with
    | true =>
      obtain ⟨-, hpieces⟩ := Group.scan_of_closed hclosed
      have hopens := (Text.balanced_iff.mp (Group.join_pieces hpieces)).2
      rw [unmatchedFrom_call_of_closed hname hclosed, unmatchedFrom_eq_nil hopens, groupIssues,
        if_pos hclosed]
      rfl
    | false =>
      rw [unmatchedFrom_call_of_not_closed hne hname hclosed, ← Group.scan_of_not_closed hclosed,
        Group.rest_of_not_closed hclosed, groupIssues, hclosed]
      simp [unmatchedFrom, upToColumn]

/-- A text that closes every parenthesis it opens is compiled without issues. -/
theorem issues_of_opens_eq_zero {text : Text} (h : opens text = 0) (offset : Nat) :
    (compileFrom offset text).issues = [] := by
  rw [issues_compileFrom, unmatchedFrom_eq_nil h]
  rfl

theorem diagnose_eq (pattern : Text) :
    diagnose pattern = upToColumn (unmatchedFrom 0 pattern) :=
  issues_compileFrom pattern 0

theorem mem_diagnose {pattern : Text} {position : Nat} :
    position ∈ diagnose pattern ↔ (∃ construct, UnmatchedAt pattern construct position) ∧
      ∀ earlier < position, ¬ UnmatchedAt pattern .column earlier := by
  simp only [diagnose_eq, mem_upToColumn (unmatchedFrom_pairwise 0 pattern), unmatchedAt_iff]

theorem diagnose_pairwise (pattern : Text) : (diagnose pattern).Pairwise (· < ·) := by
  rw [diagnose_eq]
  exact (List.pairwise_map.mpr (unmatchedFrom_pairwise 0 pattern)).sublist
    (upToColumn_sublist _)

theorem head?_diagnose {pattern : Text} {position : Nat} :
    (diagnose pattern).head? = some position ↔
      (∃ construct, UnmatchedAt pattern construct position) ∧
        ∀ earlier < position, ∀ construct, ¬ UnmatchedAt pattern construct earlier := by
  simp only [diagnose_eq, head?_upToColumn, unmatchedAt_iff]
  exact head?_eq_some_iff_least (unmatchedFrom_pairwise 0 pattern)

theorem compileStrict_eq_error {pattern : Text} {position : Nat} :
    compileStrict pattern = .error (.unbalancedParenthesis position) ↔
      (diagnose pattern).head? = some position := by
  unfold compileStrict
  cases diagnose pattern <;> simp

theorem compileStrict_eq_ok {pattern : Text} {program : Program} :
    compileStrict pattern = .ok program ↔ diagnose pattern = [] ∧ compile pattern = program := by
  unfold compileStrict
  cases diagnose pattern <;> simp

theorem diagnose_eq_nil {pattern : Text} :
    diagnose pattern = [] ↔ ∀ construct position, ¬ UnmatchedAt pattern construct position := by
  simp only [unmatchedAt_iff, diagnose_eq]
  cases unmatchedFrom 0 pattern with
  | nil => simp [upToColumn]
  | cons place places =>
    obtain ⟨position, construct⟩ := place
    constructor
    · intro h
      cases construct <;> cases h
    · intro h
      exact absurd List.mem_cons_self (h construct position)

/-- **Diagnostics are exact**: the positions listed are, in increasing order, those of the
constructs that are never closed, none of them after an unclosed column. Strict compilation refuses
a pattern exactly when there is such a construct, names the first, and else gives the program. -/
theorem diagnose_exact (pattern : Text) :
    (diagnose pattern).Pairwise (· < ·) ∧
      (∀ position, position ∈ diagnose pattern ↔
        (∃ construct, UnmatchedAt pattern construct position) ∧
          ∀ earlier < position, ¬ UnmatchedAt pattern .column earlier) ∧
      ((∃ error, compileStrict pattern = .error error) ↔
        ∃ construct position, UnmatchedAt pattern construct position) ∧
      (∀ position, compileStrict pattern = .error (.unbalancedParenthesis position) ↔
        (∃ construct, UnmatchedAt pattern construct position) ∧
          ∀ earlier < position, ∀ construct, ¬ UnmatchedAt pattern construct earlier) ∧
      (compileStrict pattern = .ok (compile pattern) ↔
        ∀ construct position, ¬ UnmatchedAt pattern construct position) := by
  refine ⟨diagnose_pairwise pattern, fun _ => mem_diagnose, ?_, fun _ => ?_, ?_⟩
  · constructor
    · rintro ⟨error, herror⟩
      have hne : diagnose pattern ≠ [] := fun hnil => by
        rw [compileStrict_eq_ok.mpr ⟨hnil, rfl⟩] at herror
        cases herror
      obtain ⟨position, hmem⟩ := List.exists_mem_of_ne_nil _ hne
      obtain ⟨⟨construct, h⟩, -⟩ := mem_diagnose.mp hmem
      exact ⟨construct, position, h⟩
    · rintro ⟨construct, position, h⟩
      cases hstrict : compileStrict pattern with
      | error error => exact ⟨error, rfl⟩
      | ok program =>
        obtain ⟨hnil, -⟩ := compileStrict_eq_ok.mp hstrict
        exact absurd h (diagnose_eq_nil.mp hnil construct position)
  · rw [compileStrict_eq_error, head?_diagnose]
  · rw [compileStrict_eq_ok, diagnose_eq_nil, and_iff_left rfl]

end Rowwise.Pattern
