import Rowwise.Pattern.Compile
import Rowwise.Proofs.Pattern.Parentheses

/-!
# Pattern — Pieces

What `Group.scan` finds. `Piece` reads a piece with a depth of its own, step by step as the scan
does, and `piece_split_iff` and `piece_whole_iff` say what that means: the parentheses balance and,
where commas part the pieces, none lies outside all parentheses.

Every piece that a comma or a closing parenthesis ended is such a text (`scan_parts`); what may
fail to be one is the last piece of a group that is never closed. Conversely the scan takes such a
text whole (`scan_close`, `scan_join`).
-/

namespace Rowwise.Text

/-- Every comma lies inside parentheses. -/
def NoOuterComma (text : Text) : Prop :=
  ∀ before, before ++ [','] <+: text → 0 < depth before

theorem forall_comma_cons {P : Text → Prop} {c : Char} {text : Text} :
    (∀ before, before ++ [','] <+: c :: text → P before) ↔
      (c = ',' → P []) ∧ ∀ before, before ++ [','] <+: text → P (c :: before) := by
  constructor
  · intro h
    refine ⟨fun hc => h [] (by simp [hc]), fun before hb => h (c :: before) ?_⟩
    exact (List.prefix_cons_inj c).mpr hb
  · rintro ⟨hnil, hcons⟩ before hb
    cases before with
    | nil =>
      obtain ⟨hc, -⟩ := List.cons_prefix_cons.mp hb
      exact hnil hc.symm
    | cons d before =>
      obtain ⟨rfl, hb'⟩ := List.cons_prefix_cons.mp hb
      exact hcons before hb'

end Rowwise.Text

namespace Rowwise.Group

open Rowwise.Text (closes opens depth Balanced NoOuterComma)

/-- Read `depth` parentheses deep, the text leads back to the surface and never above it; with
`split`, no comma lies at the surface. -/
def Piece (split : Bool) : (depth : Nat) → Text → Prop
  | depth, [] => depth = 0
  | depth, c :: text =>
    if c = '(' then Piece split (depth + 1) text
    else if c = ')' then 0 < depth ∧ Piece split (depth - 1) text
    else (split → depth = 0 → c ≠ ',') ∧ Piece split depth text

/-- The pieces of a group, the first of them begun `depth` parentheses deep: all are `Piece`s,
except that nothing is said of the last one if the group is not closed. -/
def Parts (split closed : Bool) : (depth : Nat) → (first : Text) → (more : List Text) → Prop
  | depth, first, [] => closed → Piece split depth first
  | depth, first, next :: more => Piece split depth first ∧ Parts split closed 0 next more

/-! ## What a piece is -/

theorem piece_iff {split : Bool} {d : Nat} {text : Text} :
    Piece split d text ↔ closes text = d ∧ opens text = 0 ∧
      (split → ∀ before, before ++ [','] <+: text → 0 < d + depth before) := by
  induction text generalizing d with
  | nil => simp [Piece, eq_comm (a := d)]
  | cons c text ih =>
    rw [Text.forall_comma_cons]
    -- on both sides the first character moves the depth at which the rest is read
    simp only [Text.depth_cons, Text.depth_nil]
    by_cases ho : c = '('
    · subst c
      simp only [Piece, if_true, ih, closes, opens]
      grind
    · by_cases hc : c = ')'
      · subst c
        simp only [Piece, if_true, ih, closes, opens]
        grind
      · simp only [Piece, if_neg ho, if_neg hc, ih, closes, opens]
        grind

theorem Piece.closes_eq {split : Bool} {d : Nat} {text : Text} (h : Piece split d text) :
    closes text = d :=
  (piece_iff.mp h).1

theorem Piece.opens_eq {split : Bool} {d : Nat} {text : Text} (h : Piece split d text) :
    opens text = 0 :=
  (piece_iff.mp h).2.1

theorem piece_whole_iff {text : Text} : Piece false 0 text ↔ Balanced text := by
  rw [piece_iff, Text.balanced_iff]
  simp

theorem piece_split_iff {text : Text} :
    Piece true 0 text ↔ Balanced text ∧ NoOuterComma text := by
  rw [piece_iff, Text.balanced_iff, and_assoc]
  simp [NoOuterComma]

/-! ## What the scan does -/

/-- One character, in the order in which the cases exclude each other. -/
theorem scan_cons (split : Bool) (d : Nat) (c : Char) (text : Text) :
    scan split d (c :: text) =
      if c = '(' then push '(' (scan split (d + 1) text)
      else if c = ')' then
        if d = 0 then ⟨[], [], text, true⟩ else push ')' (scan split (d - 1) text)
      else if c = ',' ∧ d = 0 ∧ split then part (scan split 0 text)
      else push c (scan split d text) := by
  by_cases ho : c = '('
  · subst c
    simp [scan]
  · by_cases hc : c = ')'
    · subst c
      cases d <;> simp [scan]
    · by_cases hcomma : c = ','
      · subst c
        cases d <;> cases split <;> simp [scan]
      · simp [scan, ho, hc, hcomma]

theorem closed_iff (split : Bool) (d : Nat) (text : Text) :
    (scan split d text).closed ↔ d < closes text := by
  induction text generalizing d with
  | nil => simp [scan]
  | cons c text ih =>
    rw [scan_cons]
    grind [closes, push, part]

/-- A group that is never closed leaves nothing after it. -/
theorem rest_of_not_closed {split : Bool} {d : Nat} {text : Text}
    (h : (scan split d text).closed = false) : (scan split d text).rest = [] := by
  induction text generalizing d with
  | nil => rfl
  | cons c text ih =>
    rw [scan_cons] at h ⊢
    grind [push, part]

theorem Parts.push {split closed : Bool} {d e : Nat} {first : Text} {more : List Text} {c : Char}
    (hc : ∀ text, Piece split d text → Piece split e (c :: text))
    (h : Parts split closed d first more) : Parts split closed e (c :: first) more := by
  cases more with
  | nil => exact fun hclosed => hc first (h hclosed)
  | cons next more => exact ⟨hc first h.1, h.2⟩

/-- **The pieces of a group** are what their name says. -/
theorem scan_parts (split : Bool) (d : Nat) (text : Text) :
    Parts split (scan split d text).closed d (scan split d text).first
      (scan split d text).more := by
  induction text generalizing d with
  | nil => exact fun h => absurd h (by simp [scan])
  | cons c text ih =>
    rw [scan_cons]
    by_cases ho : c = '('
    · rw [if_pos ho]
      exact (ih (d + 1)).push fun text h => by simpa [Piece] using h
    rw [if_neg ho]
    by_cases hc : c = ')'
    · rw [if_pos hc]
      by_cases hd : d = 0
      · rw [if_pos hd]
        exact fun _ => hd
      · rw [if_neg hd]
        exact (ih (d - 1)).push fun text h => by simpa [Piece, Nat.pos_iff_ne_zero, hd] using h
    rw [if_neg hc]
    by_cases hcut : c = ',' ∧ d = 0 ∧ split
    · -- a piece ends here, at the surface; the next one begins there
      rw [if_pos hcut]
      exact ⟨hcut.2.1, ih 0⟩
    · rw [if_neg hcut]
      exact (ih d).push fun text h => by
        simp only [Piece, if_neg ho, if_neg hc]
        exact ⟨fun hs hd hcomma => hcut ⟨hcomma, hd, hs⟩, h⟩

theorem Parts.of_closed {split : Bool} {first : Text} {more : List Text}
    (h : Parts split true 0 first more) : ∀ piece ∈ first :: more, Piece split 0 piece := by
  induction more generalizing first with
  | nil =>
    intro piece hp
    rw [List.mem_singleton.mp hp]
    exact h rfl
  | cons next more ih =>
    intro piece hp
    rcases List.mem_cons.mp hp with rfl | hp
    · exact h.1
    · exact ih h.2 piece hp

/-- The text of a closed group. -/
theorem scan_of_closed {split : Bool} {text : Text} (h : (scan split 0 text).closed = true) :
    text = Text.join [','] (scan split 0 text).pieces ++ ')' :: (scan split 0 text).rest ∧
      ∀ piece ∈ (scan split 0 text).pieces, Piece split 0 piece := by
  have hparts := scan_parts split 0 text
  have hsource := source_append_rest split 0 text
  rw [h] at hparts
  refine ⟨?_, hparts.of_closed⟩
  simpa [source, h] using hsource.symm

/-- The text of a group that is never closed. -/
theorem scan_of_not_closed {split : Bool} {text : Text}
    (h : (scan split 0 text).closed = false) :
    text = Text.join [','] (scan split 0 text).pieces := by
  have hsource := source_append_rest split 0 text
  rw [rest_of_not_closed h] at hsource
  simpa [source, h] using hsource.symm

/-- Without `split` there is one piece. -/
theorem scan_whole_more (d : Nat) (text : Text) : (scan false d text).more = [] := by
  induction text generalizing d with
  | nil => rfl
  | cons c text ih =>
    rw [scan_cons]
    grind [push]

theorem scan_whole_of_closed {text : Text} (h : (scan false 0 text).closed = true) :
    text = (scan false 0 text).first ++ ')' :: (scan false 0 text).rest ∧
      Balanced (scan false 0 text).first := by
  obtain ⟨htext, hpieces⟩ := scan_of_closed h
  rw [pieces, scan_whole_more] at htext hpieces
  exact ⟨htext, piece_whole_iff.mp (hpieces _ List.mem_cons_self)⟩

theorem scan_whole_of_not_closed {text : Text} (h : (scan false 0 text).closed = false) :
    text = (scan false 0 text).first := by
  have htext := scan_of_not_closed h
  rwa [pieces, scan_whole_more] at htext

/-- Balanced pieces make up a balanced text. -/
theorem join_pieces {split : Bool} {pieces : List Text}
    (h : ∀ piece ∈ pieces, Piece split 0 piece) : Balanced (Text.join [','] pieces) := by
  rw [Text.balanced_iff]
  induction pieces with
  | nil => exact ⟨rfl, rfl⟩
  | cons first more ih =>
    have hfirst := h first (by simp)
    have hmore := ih fun piece hp => h piece (by simp [hp])
    cases more with
    | nil => exact ⟨hfirst.closes_eq, hfirst.opens_eq⟩
    | cons next more =>
      simp only [Text.join, Text.closes_append, Text.opens_append, hfirst.closes_eq,
        hfirst.opens_eq, hmore.1, hmore.2]
      decide

/-- **The scan takes a piece whole**, and goes on at the surface. -/
theorem scan_append {split : Bool} {d : Nat} {piece : Text} (h : Piece split d piece)
    (text : Text) :
    scan split d (piece ++ text) =
      { scan split 0 text with first := piece ++ (scan split 0 text).first } := by
  induction piece generalizing d with
  | nil =>
    cases h
    rfl
  | cons c piece ih =>
    rw [List.cons_append, scan_cons]
    by_cases ho : c = '('
    · subst c
      rw [if_pos rfl, ih (by simpa [Piece] using h)]
      rfl
    · by_cases hc : c = ')'
      · subst c
        obtain ⟨hd, hrest⟩ : 0 < d ∧ Piece split (d - 1) piece := by simpa [Piece] using h
        rw [if_neg ho, if_pos rfl, if_neg (by omega), ih hrest]
        rfl
      · simp only [Piece, if_neg ho, if_neg hc] at h
        rw [if_neg ho, if_neg hc, if_neg fun hcut => h.1 hcut.2.2 hcut.2.1 hcut.1, ih h.2]
        rfl

theorem scan_close {split : Bool} {piece : Text} (h : Piece split 0 piece) (rest : Text) :
    scan split 0 (piece ++ ')' :: rest) = ⟨piece, [], rest, true⟩ := by
  rw [scan_append h]
  simp [scan]

/-- **The scan takes written pieces apart** at the commas between them. -/
theorem scan_join {first : Text} {more : List Text} (hfirst : Piece true 0 first)
    (hmore : ∀ piece ∈ more, Piece true 0 piece) (rest : Text) :
    scan true 0 (Text.join [','] (first :: more) ++ ')' :: rest) = ⟨first, more, rest, true⟩ := by
  induction more generalizing first with
  | nil => exact scan_close hfirst rest
  | cons next more ih =>
    have hjoin : Text.join [','] (first :: next :: more) ++ ')' :: rest
        = first ++ ',' :: (Text.join [','] (next :: more) ++ ')' :: rest) := by
      simp [Text.join]
    have hnext := ih (hmore next (by simp)) fun piece hp => hmore piece (by simp [hp])
    rw [hjoin, scan_append hfirst, scan, hnext]
    simp [part]

end Rowwise.Group
