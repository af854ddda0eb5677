import Rowwise.Text.Basic

/-!
# Pattern — Parentheses

How the parentheses of a text pair up. `Balanced` and `Unclosed` say it by counting in every
prefix, the way a reader of a pattern would. The proofs count instead, from the end of the text,
the parentheses that find no partner in it: `closes` closing ones, and `opens` opening ones after
them. These two numbers compose under `++`, and both notions are a matter of when they are zero.
-/

namespace Rowwise.Text

/-- By how much a text leads deeper into parentheses. -/
def depth (text : Text) : Int :=
  text.count '(' - text.count ')'

/-- No prefix closes more parentheses than it opens, and the whole closes all. -/
structure Balanced (text : Text) : Prop where
  prefixes : ∀ before, before <+: text → 0 ≤ depth before
  whole : depth text = 0

/-- The depth in parentheses, counted from 1 where the text begins, is never 0. -/
def Unclosed (text : Text) : Prop :=
  ∀ before, before <+: text → 1 + depth before ≠ 0

/-- The closing parentheses without partner. -/
def closes : Text → Nat
  | [] => 0
  | c :: text =>
    if c = '(' then closes text - 1 else if c = ')' then closes text + 1 else closes text

/-- The opening parentheses without partner. -/
def opens : Text → Nat
  | [] => 0
  | c :: text => if c = '(' ∧ closes text = 0 then opens text + 1 else opens text

@[simp] theorem depth_nil : depth [] = 0 := rfl

theorem depth_cons (c : Char) (text : Text) :
    depth (c :: text) = (if c = '(' then 1 else if c = ')' then -1 else 0) + depth text := by
  by_cases ho : c = '('
  · subst c
    simp [depth]
    omega
  · by_cases hc : c = ')'
    · subst c
      simp [depth]
      omega
    · simp [depth, ho, hc]

@[simp] theorem closes_nil : closes [] = 0 := rfl

@[simp] theorem opens_nil : opens [] = 0 := rfl

theorem closes_append (a b : Text) : closes (a ++ b) = closes a + (closes b - opens a) := by
  induction a with
  | nil => simp
  | cons c a ih => grind [closes, opens]

theorem opens_append (a b : Text) : opens (a ++ b) = opens b + (opens a - closes b) := by
  induction a with
  | nil => simp
  | cons c a ih => grind [closes, opens, closes_append]

/-- A parenthesis that the rest of a text leaves open is open in the whole text. -/
theorem opens_le_append (a b : Text) : opens b ≤ opens (a ++ b) := by
  rw [opens_append]
  omega

theorem closes_le_append (a b : Text) : closes a ≤ closes (a ++ b) := by
  rw [closes_append]
  omega

theorem opens_of_not_mem {text : Text} (h : '(' ∉ text) : opens text = 0 := by
  induction text with
  | nil => rfl
  | cons c text ih =>
    simp only [List.mem_cons, not_or] at h
    rw [opens, if_neg fun hc => h.1 hc.1.symm, ih h.2]

theorem depth_eq (text : Text) : depth text = opens text - closes text := by
  induction text with
  | nil => rfl
  | cons c text ih => grind [depth_cons, closes, opens]

theorem neg_closes_le_depth {before text : Text} (hb : before <+: text) :
    -(closes text : Int) ≤ depth before := by
  obtain ⟨after, rfl⟩ := hb
  have := closes_le_append before after
  rw [depth_eq]
  omega

/-- Every depth down to the lowest is reached, since a character leads down by at most one. -/
theorem exists_prefix_depth {text : Text} {n : Nat} (hn : n ≤ closes text) :
    ∃ before, before <+: text ∧ depth before = -(n : Int) := by
  induction text generalizing n with
  | nil =>
    have : n = 0 := by simpa using hn
    exact ⟨[], List.nil_prefix, by simp [this]⟩
  | cons c text ih =>
    rcases Nat.eq_zero_or_pos n with rfl | hpos
    · exact ⟨[], List.nil_prefix, rfl⟩
    · -- the rest of the text has to reach `n` less what the first character contributes
      by_cases ho : c = '('
      · obtain ⟨before, hb, hd⟩ := ih (n := n + 1) (by simp [closes, ho] at hn; omega)
        refine ⟨c :: before, (List.prefix_cons_inj c).mpr hb, ?_⟩
        rw [depth_cons, if_pos ho]
        omega
      · by_cases hc : c = ')'
        · obtain ⟨before, hb, hd⟩ := ih (n := n - 1) (by simp [closes, hc] at hn; omega)
          refine ⟨c :: before, (List.prefix_cons_inj c).mpr hb, ?_⟩
          rw [depth_cons, if_neg ho, if_pos hc]
          omega
        · obtain ⟨before, hb, hd⟩ := ih (n := n) (by simpa [closes, ho, hc] using hn)
          refine ⟨c :: before, (List.prefix_cons_inj c).mpr hb, ?_⟩
          rw [depth_cons, if_neg ho, if_neg hc]
          omega

/-- **Balanced texts** are those whose parentheses all find their partners. -/
theorem balanced_iff {text : Text} : Balanced text ↔ closes text = 0 ∧ opens text = 0 := by
  have hdepth := depth_eq text
  constructor
  · intro h
    obtain ⟨before, hb, hd⟩ := exists_prefix_depth (Nat.le_refl (closes text))
    have hprefix := h.prefixes before hb
    have hwhole := h.whole
    omega
  · rintro ⟨hc, ho⟩
    refine ⟨fun before hb => ?_, by omega⟩
    have := neg_closes_le_depth hb
    omega

theorem balanced_of_not_mem {text : Text} (ho : '(' ∉ text) (hc : ')' ∉ text) :
    Balanced text := by
  have hdepth : ∀ before, before <+: text → depth before = 0 := by
    intro before hb
    have hopen : '(' ∉ before := fun h => ho (hb.subset h)
    have hclose : ')' ∉ before := fun h => hc (hb.subset h)
    rw [depth, List.count_eq_zero.mpr hopen, List.count_eq_zero.mpr hclose]
    rfl
  refine ⟨fun before hb => ?_, hdepth text List.prefix_rfl⟩
  exact Int.le_of_eq (hdepth before hb).symm

/-- **A parenthesis stays open** exactly when none of the closing ones after it lacks a partner
there. -/
theorem unclosed_iff {text : Text} : Unclosed text ↔ closes text = 0 := by
  constructor
  · intro h
    rcases Nat.eq_zero_or_pos (closes text) with hz | hpos
    · exact hz
    · obtain ⟨before, hb, hd⟩ := exists_prefix_depth (n := 1) hpos
      exact absurd (by omega) (h before hb)
  · intro hz before hb
    have := neg_closes_le_depth hb
    omega

end Rowwise.Text
