import Rowwise.Proofs.Pattern.Pieces

/-!
# Pattern — Constructs

How a construct of a pattern begins (`Opens`), what the compiler does where one begins and where
none does, and the induction over patterns that follows the compiler: into the pieces of a call
and to the text after a construct, else one character on.
-/

namespace Rowwise.Pattern

/-- The two constructs of patterns. -/
inductive Construct
  | column
  | call
  deriving DecidableEq

/-- `Opens construct body text`: the text begins with the opening of the construct, after whose
parenthesis `body` follows. -/
inductive Opens : Construct → (body text : Text) → Prop
  | column (body : Text) : Opens .column body ('$' :: '(' :: body)
  | call (name body : Text) (hne : name ≠ []) (hname : ∀ c ∈ name, isNameChar c) :
      Opens .call body ('@' :: name ++ '(' :: body)

/-! ## Where constructs begin -/

/-- What stands before the parenthesis of a construct: it holds no parenthesis and no comma, after
its first character only name characters, and makes any text after a parenthesis a construct. -/
theorem Opens.front {construct : Construct} {body text : Text} (h : Opens construct body text) :
    ∃ front, text = front ++ '(' :: body ∧ front ≠ [] ∧ (∀ c ∈ front.tail, isNameChar c) ∧
      (∀ c ∈ front, c ≠ '(' ∧ c ≠ ')' ∧ c ≠ ',') ∧
      ∀ other, Opens construct other (front ++ '(' :: other) := by
  cases h with
  | column => exact ⟨['$'], rfl, by simp, by simp, by simp, .column⟩
  | call name _ hne hname =>
    refine ⟨'@' :: name, rfl, by simp, hname, ?_, fun other => .call name other hne hname⟩
    intro c hc
    rcases List.mem_cons.mp hc with rfl | hc
    · decide
    · have := hname c hc
      refine ⟨?_, ?_, ?_⟩ <;> rintro rfl <;> exact absurd this (by decide)

theorem Opens.append {construct : Construct} {body text : Text} (h : Opens construct body text)
    (more : Text) : Opens construct (body ++ more) (text ++ more) := by
  obtain ⟨front, rfl, -, -, -, hopens⟩ := h.front
  simpa using hopens (body ++ more)

/-- **A construct that begins in a text and goes on after it**: either its parenthesis is in the
text, or all of the text stands before the parenthesis. -/
theorem Opens.append_cases {construct : Construct} {body a b : Text}
    (h : Opens construct body (a ++ b)) :
    (∃ inner, Opens construct inner a ∧ body = inner ++ b) ∨
      ∃ name, b = name ++ '(' :: body ∧ ')' ∉ a ∧ ',' ∉ a ∧
        (a ≠ [] → ∀ c ∈ name, isNameChar c) := by
  obtain ⟨front, htext, -, hname, hplain, hopens⟩ := h.front
  -- either `a` ends before the parenthesis, or it goes on from there with `inner`
  rcases List.append_eq_append_iff.mp htext with ⟨name, rfl, hb⟩ | ⟨inner, rfl, hbody⟩
  · refine .inr ⟨name, hb, fun h => ?_, fun h => ?_, fun hne c hc => hname c ?_⟩
    · exact (hplain ')' (by simp [h])).2.1 rfl
    · exact (hplain ',' (by simp [h])).2.2 rfl
    · rw [List.tail_append_of_ne_nil hne]
      simp [hc]
  · cases inner with
    | nil =>
      refine .inr ⟨[], hbody.symm, fun h => ?_, fun h => ?_, by simp⟩
      · exact (hplain ')' (by simpa using h)).2.1 rfl
      · exact (hplain ',' (by simpa using h)).2.2 rfl
    | cons c inner =>
      simp only [List.cons_append, List.cons.injEq] at hbody
      obtain ⟨rfl, rfl⟩ := hbody
      exact .inl ⟨inner, hopens inner, rfl⟩

/-! ## Function names -/

theorem callHead?_append {name : Text} (hne : name ≠ []) (hname : ∀ c ∈ name, isNameChar c)
    (body : Text) : callHead? (name ++ '(' :: body) = some (name, body) := by
  have hparen : isNameChar '(' = false := by decide
  have htake : (name ++ '(' :: body).takeWhile isNameChar = name := by
    rw [List.takeWhile_append_of_pos hname]
    simp [hparen]
  have hdrop : (name ++ '(' :: body).dropWhile isNameChar = '(' :: body := by
    rw [List.dropWhile_append_of_pos hname]
    simp [hparen]
  simp only [callHead?, htake, if_neg hne, hdrop]

theorem callHead?_eq_some {text name body : Text} (h : callHead? text = some (name, body)) :
    name ≠ [] ∧ (∀ c ∈ name, isNameChar c) ∧ text = name ++ '(' :: body := by
  unfold callHead? at h
  split at h
  · exact absurd h (by simp)
  · rename_i hne
    split at h
    · rename_i rest hdrop
      obtain ⟨rfl, rfl⟩ : text.takeWhile isNameChar = name ∧ rest = body := by simpa using h
      refine ⟨hne, List.all_eq_true.mp List.all_takeWhile, ?_⟩
      rw [← hdrop, List.takeWhile_append_dropWhile]
    · exact absurd h (by simp)

/-! ## The compiler's equations -/

@[simp] theorem compileFrom_nil (offset : Nat) : compileFrom offset [] = ⟨[], []⟩ := by
  rw [compileFrom]

theorem compileFrom_column (offset : Nat) (body : Text) :
    compileFrom offset ('$' :: '(' :: body) =
      (compileFrom (offset + 2 + Text.utf8Size (Group.scan false 0 body).source)
        (Group.scan false 0 body).rest).pushConstruct
          (.column (Group.scan false 0 body).first)
          (groupIssues offset (Group.scan false 0 body)) := by
  rw [compileFrom]

theorem compileFrom_call (offset : Nat) {name : Text} (hne : name ≠ [])
    (hname : ∀ c ∈ name, isNameChar c) (body : Text) :
    compileFrom offset ('@' :: name ++ '(' :: body) =
      (compileFrom (offset + Text.utf8Size name + 2
          + Text.utf8Size (Group.scan true 0 body).source)
        (Group.scan true 0 body).rest).pushConstruct
          (.call name (compileArgs (offset + Text.utf8Size name + 2)
            (Group.scan true 0 body).pieces).1)
          (groupIssues offset (Group.scan true 0 body)
            ++ (compileArgs (offset + Text.utf8Size name + 2)
              (Group.scan true 0 body).pieces).2) := by
  have hhead := callHead?_append hne hname body
  rw [List.cons_append, compileFrom]
  · split
    · rename_i name' body' h
      obtain ⟨rfl, rfl⟩ : name = name' ∧ body = body' := by simpa [hhead] using h
      rfl
    · rename_i h
      simp [hhead] at h
  · intro _ h
    exact absurd h (by decide)

theorem compileFrom_literal (offset : Nat) {c : Char} {text : Text}
    (hno : ∀ construct body, ¬ Opens construct body (c :: text)) :
    compileFrom offset (c :: text)
      = (compileFrom (offset + c.utf8Size) text).pushLiteral c := by
  rw [compileFrom]
  · split
    · rename_i name body h
      split at h
      · rename_i hat
        obtain ⟨hne, hname, rfl⟩ := callHead?_eq_some h
        subst c
        exact absurd (.call name body hne hname) (hno .call body)
      · exact absurd h (by simp)
    · rfl
  · rintro body rfl rfl
    exact hno .column body (.column body)

theorem compileArgs_nil (offset : Nat) : compileArgs offset [] = ([], []) := by
  rw [compileArgs]

theorem compileArgs_cons (offset : Nat) (piece : Text) (more : List Text) :
    compileArgs offset (piece :: more) =
      ((compileFrom offset piece).program
          :: (compileArgs (offset + Text.utf8Size piece + 1) more).1,
        (compileFrom offset piece).issues
          ++ (compileArgs (offset + Text.utf8Size piece + 1) more).2) := by
  rw [compileArgs]

@[simp] theorem issues_pushLiteral (c : Char) (compiled : Compiled) :
    (compiled.pushLiteral c).issues = compiled.issues := by
  unfold Compiled.pushLiteral
  split <;> rfl

@[simp] theorem issues_pushConstruct (segment : Segment) (issues : List Nat)
    (compiled : Compiled) :
    (compiled.pushConstruct segment issues).issues = issues ++ compiled.issues := rfl

@[simp] theorem program_pushConstruct (segment : Segment) (issues : List Nat)
    (compiled : Compiled) :
    (compiled.pushConstruct segment issues).program = segment :: compiled.program := rfl

/-! ## Induction over patterns -/

theorem length_lt_span {piece : Text} {pieces : List Text} (h : piece ∈ pieces) :
    piece.length < Group.span pieces := by
  induction pieces with
  | nil => cases h
  | cons first more ih =>
    rw [Group.span_cons]
    rcases List.mem_cons.mp h with rfl | h
    · omega
    · have := ih h
      omega

/-- **Induction over patterns**, along the way the compiler takes. -/
theorem induct {motive : Text → Prop} (nil : motive [])
    (column : ∀ body, motive (Group.scan false 0 body).rest → motive ('$' :: '(' :: body))
    (call : ∀ name body, name ≠ [] → (∀ c ∈ name, isNameChar c) →
      (∀ piece ∈ (Group.scan true 0 body).pieces, motive piece) →
      motive (Group.scan true 0 body).rest → motive ('@' :: name ++ '(' :: body))
    (literal : ∀ c text, (∀ construct body, ¬ Opens construct body (c :: text)) →
      motive text → motive (c :: text)) (text : Text) : motive text := by
  -- neither the pieces of a call nor the text after a construct is a tail of the text, so the
  -- induction is on the length
  induction hlength : text.length using Nat.strongRecOn generalizing text with
  | ind n ih =>
    subst hlength
    cases text with
    | nil => exact nil
    | cons c text =>
      by_cases hopens : ∃ construct body, Opens construct body (c :: text)
      · obtain ⟨construct, body, h⟩ := hopens
        generalize htext : c :: text = whole at h ih
        cases h with
        | column =>
          have hrest := Group.rest_length_le false 0 body
          exact column body (ih _ (by simp; omega) _ rfl)
        | call name _ hne hname =>
          have hrest := Group.rest_length_le true 0 body
          have hpieces := Group.span_pieces_le true 0 body
          refine call name body hne hname (fun piece hp => ?_) (ih _ (by simp; omega) _ rfl)
          have := length_lt_span hp
          exact ih _ (by simp; omega) _ rfl
      · exact literal c text (fun construct body h => hopens ⟨construct, body, h⟩)
          (ih _ (by simp) _ rfl)

end Rowwise.Pattern
