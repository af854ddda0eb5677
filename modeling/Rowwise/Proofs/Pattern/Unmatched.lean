import Rowwise.Proofs.Pattern.Constructs

/-!
# Pattern — Unmatched constructs

Where the constructs of a pattern begin that are never closed. `UnmatchedAt` says it of one byte
position, by the text before and after it; `unmatchedFrom` computes all these places from left to
right.

The text of a closed construct, and a piece with the comma after it, hold no such place whatever
follows them, since every parenthesis in them is closed there and no construct can straddle their
end (`unmatchedFrom_closed`). So a walk over a pattern may pass over them as the compiler does: the
last section says how at each construct.
-/

namespace Rowwise.Pattern

open Rowwise.Text (opens closes Unclosed)

/-- A construct begins at this byte position of the pattern and is never closed. -/
def UnmatchedAt (pattern : Text) (construct : Construct) (position : Nat) : Prop :=
  ∃ before after body, pattern = before ++ after ∧ Text.utf8Size before = position ∧
    Opens construct body after ∧ Unclosed body

/-- The construct that begins with the text and is never closed. -/
def unmatchedHead? : Text → Option Construct
  | '$' :: '(' :: body => if closes body = 0 then some .column else none
  | '@' :: text => (callHead? text).bind fun head =>
      if closes head.2 = 0 then some .call else none
  | _ => none

/-- The constructs of a text that are never closed, with their byte positions when the text starts
at byte `offset`. -/
def unmatchedFrom (offset : Nat) : Text → List (Nat × Construct)
  | [] => []
  | c :: text =>
    match unmatchedHead? (c :: text) with
    | some construct => (offset, construct) :: unmatchedFrom (offset + c.utf8Size) text
    | none => unmatchedFrom (offset + c.utf8Size) text

/-! ## Unmatched places -/

theorem unmatchedHead?_eq_some_iff {text : Text} {construct : Construct} :
    unmatchedHead? text = some construct ↔ ∃ body, Opens construct body text ∧ closes body = 0 := by
  constructor
  · intro h
    unfold unmatchedHead? at h
    split at h
    · rename_i body
      split at h
      · rename_i hz
        cases h
        exact ⟨body, .column body, hz⟩
      · exact absurd h (by simp)
    · obtain ⟨⟨name, body⟩, hhead, hif⟩ := Option.bind_eq_some_iff.mp h
      obtain ⟨hne, hname, rfl⟩ := callHead?_eq_some hhead
      split at hif
      · rename_i hz
        cases hif
        exact ⟨body, .call name body hne hname, hz⟩
      · exact absurd hif (by simp)
    · exact absurd h (by simp)
  · rintro ⟨body, hopens, hz⟩
    cases hopens with
    | column => simp [unmatchedHead?, hz]
    | call name _ hne hname => simp [unmatchedHead?, callHead?_append hne hname, hz]

theorem unmatchedFrom_of_some {c : Char} {text : Text} {construct : Construct}
    (h : unmatchedHead? (c :: text) = some construct) (offset : Nat) :
    unmatchedFrom offset (c :: text)
      = (offset, construct) :: unmatchedFrom (offset + c.utf8Size) text := by
  rw [unmatchedFrom, h]

theorem unmatchedFrom_of_none {c : Char} {text : Text} (h : unmatchedHead? (c :: text) = none)
    (offset : Nat) :
    unmatchedFrom offset (c :: text) = unmatchedFrom (offset + c.utf8Size) text := by
  rw [unmatchedFrom, h]

theorem mem_unmatchedFrom_cons {offset : Nat} {c : Char} {text : Text} {place : Nat × Construct} :
    place ∈ unmatchedFrom offset (c :: text) ↔
      (place.1 = offset ∧ unmatchedHead? (c :: text) = some place.2) ∨
        place ∈ unmatchedFrom (offset + c.utf8Size) text := by
  obtain ⟨position, construct⟩ := place
  cases h : unmatchedHead? (c :: text) with
  | none => simp [unmatchedFrom_of_none h]
  | some found => simp [unmatchedFrom_of_some h, eq_comm]

theorem mem_unmatchedFrom {offset : Nat} {text : Text} {place : Nat × Construct} :
    place ∈ unmatchedFrom offset text ↔
      ∃ before after, text = before ++ after ∧ offset + Text.utf8Size before = place.1 ∧
        unmatchedHead? after = some place.2 := by
  induction text generalizing offset with
  | nil =>
    constructor
    · intro h
      cases h
    · rintro ⟨before, after, htext, -, hhead⟩
      obtain ⟨-, rfl⟩ := List.append_eq_nil_iff.mp htext.symm
      cases hhead
  | cons c text ih =>
    rw [mem_unmatchedFrom_cons, ih]
    constructor
    · rintro (⟨hpos, hhead⟩ | ⟨before, after, rfl, hpos, hhead⟩)
      · exact ⟨[], c :: text, rfl, by simp [hpos], hhead⟩
      · exact ⟨c :: before, after, rfl, by simp [← hpos, Nat.add_assoc], hhead⟩
    · rintro ⟨before, after, htext, hpos, hhead⟩
      cases before with
      | nil =>
        subst htext
        exact .inl ⟨by simpa using hpos.symm, hhead⟩
      | cons d before =>
        obtain ⟨rfl, rfl⟩ := List.cons.inj htext
        exact .inr ⟨before, after, rfl, by simpa [Nat.add_assoc] using hpos, hhead⟩

theorem unmatchedAt_iff {pattern : Text} {construct : Construct} {position : Nat} :
    UnmatchedAt pattern construct position ↔ (position, construct) ∈ unmatchedFrom 0 pattern := by
  rw [mem_unmatchedFrom]
  constructor
  · rintro ⟨before, after, body, htext, hpos, hopens, hun⟩
    exact ⟨before, after, htext, by simpa using hpos,
      unmatchedHead?_eq_some_iff.mpr ⟨body, hopens, Text.unclosed_iff.mp hun⟩⟩
  · rintro ⟨before, after, htext, hpos, hhead⟩
    obtain ⟨body, hopens, hz⟩ := unmatchedHead?_eq_some_iff.mp hhead
    exact ⟨before, after, body, htext, by simpa using hpos, hopens, Text.unclosed_iff.mpr hz⟩

theorem le_of_mem_unmatchedFrom {offset : Nat} {text : Text} {place : Nat × Construct}
    (h : place ∈ unmatchedFrom offset text) : offset ≤ place.1 := by
  obtain ⟨before, -, -, hpos, -⟩ := mem_unmatchedFrom.mp h
  omega

theorem unmatchedFrom_pairwise (offset : Nat) (text : Text) :
    (unmatchedFrom offset text).Pairwise fun a b => a.1 < b.1 := by
  induction text generalizing offset with
  | nil => exact .nil
  | cons c text ih =>
    rw [unmatchedFrom]
    split
    · refine .cons (fun place hp => ?_) (ih _)
      have := le_of_mem_unmatchedFrom hp
      have := c.utf8Size_pos
      simp only
      omega
    · exact ih _

/-! ## Passing over closed text -/

/-- A construct that begins in a text without open parentheses is closed there. -/
theorem Opens.closes_ne_zero {construct : Construct} {text body : Text}
    (h : Opens construct body text) (before : Text) (hopens : opens (before ++ text) = 0) : closes body ≠ 0 := by
  intro hz
  obtain ⟨front, rfl, -⟩ := h.front
  have := Text.opens_le_append (before ++ front) ('(' :: body)
  simp only [List.append_assoc, hopens, opens, hz, and_self, if_true] at this
  omega

/-- No unmatched construct begins in a text that is closed, if none can straddle its end. -/
theorem unmatchedHead?_closed {a : Text} {d : Char} (hd : d = ')' ∨ d = ',')
    (hopens : opens (a ++ [d]) = 0) (b : Text) : unmatchedHead? (a ++ d :: b) = none := by
  rw [Option.eq_none_iff_forall_ne_some]
  intro construct hhead
  obtain ⟨body, hbegin, hz⟩ := unmatchedHead?_eq_some_iff.mp hhead
  rw [List.append_cons] at hbegin
  rcases hbegin.append_cases with ⟨inner, hinner, rfl⟩ | ⟨-, -, hclosing, hcomma, -⟩
  · have hne := hinner.closes_ne_zero [] hopens
    have := Text.closes_le_append inner b
    omega
  · -- what straddles the end has `d` before its parenthesis
    rcases hd with rfl | rfl
    · simp at hclosing
    · simp at hcomma

/-- **Closed text is passed over**, whatever follows it. -/
theorem unmatchedFrom_closed {a : Text} {d : Char} (hd : d = ')' ∨ d = ',')
    (hopens : opens (a ++ [d]) = 0) (offset : Nat) (b : Text) :
    unmatchedFrom offset (a ++ d :: b)
      = unmatchedFrom (offset + Text.utf8Size (a ++ [d])) b := by
  induction a generalizing offset with
  | nil =>
    have hhead := unmatchedHead?_closed hd hopens b
    rw [List.nil_append] at hhead ⊢
    rw [unmatchedFrom_of_none hhead]
    simp
  | cons c a ih =>
    have hhead := unmatchedHead?_closed hd hopens b
    rw [List.cons_append] at hhead ⊢
    have hrest : opens (a ++ [d]) = 0 := by
      have := Text.opens_le_append [c] (a ++ [d])
      simp only [List.cons_append, List.nil_append] at this hopens
      omega
    rw [unmatchedFrom_of_none hhead]
    simp only [ih hrest, List.cons_append, Text.utf8Size_cons, Nat.add_assoc]

/-- No construct begins at a character other than a dollar or an at sign. -/
theorem unmatchedFrom_front {front : Text} (hfront : ∀ c ∈ front, c ≠ '$' ∧ c ≠ '@')
    (offset : Nat) (b : Text) :
    unmatchedFrom offset (front ++ b) = unmatchedFrom (offset + Text.utf8Size front) b := by
  induction front generalizing offset with
  | nil => rfl
  | cons c front ih =>
    have hhead : unmatchedHead? (c :: (front ++ b)) = none := by
      obtain ⟨hdollar, hat⟩ := hfront c (by simp)
      simp [unmatchedHead?, hdollar, hat]
    rw [List.cons_append, unmatchedFrom_of_none hhead]
    simp only [ih fun c hc => hfront c (by simp [hc]), Text.utf8Size_cons, Nat.add_assoc]

theorem unmatchedFrom_eq_nil {text : Text} (h : opens text = 0) (offset : Nat) :
    unmatchedFrom offset text = [] := by
  rw [List.eq_nil_iff_forall_not_mem]
  rintro ⟨position, construct⟩ hmem
  obtain ⟨before, after, rfl, -, hhead⟩ := mem_unmatchedFrom.mp hmem
  obtain ⟨body, hbegin, hz⟩ := unmatchedHead?_eq_some_iff.mp hhead
  exact hbegin.closes_ne_zero before h hz

/-- A closed construct is passed over. -/
theorem unmatchedFrom_group {front : Text} (hfront : '(' ∉ front) {split : Bool} {body : Text}
    (hclosed : (Group.scan split 0 body).closed = true) (offset : Nat) :
    unmatchedFrom offset (front ++ '(' :: body)
      = unmatchedFrom (offset + Text.utf8Size front + 1
          + Text.utf8Size (Group.scan split 0 body).source) (Group.scan split 0 body).rest := by
  obtain ⟨htext, hpieces⟩ := Group.scan_of_closed hclosed
  obtain ⟨hcloses, hopens⟩ := Text.balanced_iff.mp (Group.join_pieces hpieces)
  generalize hrest : (Group.scan split 0 body).rest = rest at htext ⊢
  have hsource : (Group.scan split 0 body).source
      = Text.join [','] (Group.scan split 0 body).pieces ++ [')'] := by
    rw [Group.source, hclosed, if_pos rfl]
  generalize Text.join [','] (Group.scan split 0 body).pieces = inner at *
  have hall : opens (front ++ '(' :: inner ++ [')']) = 0 := by
    simp only [Text.opens_append, opens, closes, hcloses, hopens, Text.opens_of_not_mem hfront]
    decide
  have hskip := unmatchedFrom_closed (.inl rfl) hall offset rest
  rw [hsource, htext]
  simpa [Nat.add_assoc, show '('.utf8Size = 1 from rfl] using hskip

/-! ## At a construct -/

theorem closes_of_not_closed {split : Bool} {body : Text}
    (h : (Group.scan split 0 body).closed = false) : closes body = 0 := by
  have := Group.closed_iff split 0 body
  simp only [h, Bool.false_eq_true, false_iff] at this
  omega

theorem unmatchedFrom_column_of_closed {body : Text}
    (h : (Group.scan false 0 body).closed = true) (offset : Nat) :
    unmatchedFrom offset ('$' :: '(' :: body)
      = unmatchedFrom (offset + 2 + Text.utf8Size (Group.scan false 0 body).source)
          (Group.scan false 0 body).rest := by
  have hpass := unmatchedFrom_group (show '(' ∉ ['$'] by decide) h offset
  simpa [Nat.add_assoc, show '$'.utf8Size = 1 from rfl] using hpass

theorem unmatchedFrom_column_of_not_closed {body : Text}
    (h : (Group.scan false 0 body).closed = false) (offset : Nat) :
    unmatchedFrom offset ('$' :: '(' :: body)
      = (offset, .column) :: unmatchedFrom (offset + 1) ('(' :: body) :=
  unmatchedFrom_of_some
    (unmatchedHead?_eq_some_iff.mpr ⟨body, .column body, closes_of_not_closed h⟩) offset

theorem unmatchedFrom_call_of_closed {name : Text} (hname : ∀ c ∈ name, isNameChar c) {body : Text}
    (h : (Group.scan true 0 body).closed = true) (offset : Nat) :
    unmatchedFrom offset ('@' :: name ++ '(' :: body)
      = unmatchedFrom (offset + Text.utf8Size name + 2
          + Text.utf8Size (Group.scan true 0 body).source) (Group.scan true 0 body).rest := by
  have hfront : '(' ∉ '@' :: name := fun h => absurd (hname '(' (by simpa using h)) (by decide)
  have hoffset : offset + Text.utf8Size ('@' :: name) + 1
      = offset + Text.utf8Size name + 2 := by
    rw [Text.utf8Size_cons, show '@'.utf8Size = 1 from rfl]
    omega
  rw [unmatchedFrom_group hfront h, hoffset]

theorem unmatchedFrom_call_of_not_closed {name : Text} (hne : name ≠ [])
    (hname : ∀ c ∈ name, isNameChar c) {body : Text}
    (h : (Group.scan true 0 body).closed = false) (offset : Nat) :
    unmatchedFrom offset ('@' :: name ++ '(' :: body)
      = (offset, .call) :: unmatchedFrom (offset + Text.utf8Size name + 2) body := by
  have hhead : unmatchedHead? ('@' :: (name ++ '(' :: body)) = some .call :=
    unmatchedHead?_eq_some_iff.mpr ⟨body, .call name body hne hname, closes_of_not_closed h⟩
  have hfront : ∀ c ∈ name ++ ['('], c ≠ '$' ∧ c ≠ '@' := by
    intro c hc
    rcases List.mem_append.mp hc with hc | hc
    · have := hname c hc
      constructor <;> rintro rfl <;> exact absurd this (by decide)
    · rw [List.mem_singleton.mp hc]
      decide
  have hoffset : offset + 1 + Text.utf8Size (name ++ ['('])
      = offset + Text.utf8Size name + 2 := by
    rw [Text.utf8Size_append, Text.utf8Size_cons, Text.utf8Size_nil,
      show '('.utf8Size = 1 from rfl]
    omega
  have hpass := unmatchedFrom_front hfront (offset + 1) body
  rw [hoffset, List.append_assoc] at hpass
  rw [List.cons_append, unmatchedFrom_of_some hhead, show '@'.utf8Size = 1 from rfl]
  exact congrArg _ hpass

end Rowwise.Pattern
