import Rowwise.Number.Binary64

/-!
# Number — Rounding

What becomes of a whole number that is read as a double-precision number: it is rounded to 53
significant bits, a tie to the even neighbour, unless it is too large for any double
(`isInteger_ofRatio_or`). In closed form this is `rounded`. Up to the bound at which doubles begin
to lie more than one apart it changes nothing, beyond the bound it stays beyond it, however far
(`stands_toInteger_ofRatio`), it keeps the order, and nothing with 53 significant bits is nearer.
-/

namespace Rowwise

namespace Number

theorem powerOfTwo_add (a b : Nat) : powerOfTwo (a + b) = powerOfTwo a * powerOfTwo b :=
  Nat.pow_add 2 a b

theorem powerOfTwo_pos (exponent : Nat) : 0 < powerOfTwo exponent :=
  Nat.two_pow_pos exponent

theorem powerOfTwo_mono {a b : Nat} (h : a ≤ b) : powerOfTwo a ≤ powerOfTwo b :=
  Nat.pow_le_pow_right Nat.zero_lt_two h

end Number

namespace Binary64

open Rowwise.Number (powerOfTwo powerOfTwo_add powerOfTwo_pos powerOfTwo_mono)

variable {m n den : Nat}

/-- Every integer up to this one is a double. -/
def exactBound : Nat := 0x20000000000000

/-- One integer stands for another: they are equal, or both lie beyond the bound on one side. -/
inductive Stands : Int → Int → Prop
  | same (n : Int) : Stands n n
  | above {m n : Int} (hm : exactBound ≤ m) (hn : exactBound ≤ n) : Stands m n
  | below {m n : Int} (hm : m ≤ -exactBound) (hn : n ≤ -exactBound) : Stands m n

theorem Stands.trans {l m n : Int} (hlm : Stands l m) (hmn : Stands m n) : Stands l n := by
  have hbound : exactBound = 0x20000000000000 := rfl
  cases hlm with
  | same => exact hmn
  | above hl hm =>
    cases hmn with
    | same => exact .above hl hm
    | above _ hn => exact .above hl hn
    | below hm' _ => omega
  | below hl hm =>
    cases hmn with
    | same => exact .below hl hm
    | above hm' _ => omega
    | below _ hn => exact .below hl hn

/-- Within the bound nothing else stands for a number. -/
theorem Stands.eq_of_lt {m n : Int} (h : Stands m n) (hlow : -exactBound < n)
    (hhigh : n < exactBound) : m = n := by
  cases h with
  | same => rfl
  | above _ hn => exact absurd hhigh (Int.not_lt.mpr hn)
  | below _ hn => exact absurd hlow (Int.not_lt.mpr hn)

/-- A natural number with a sign. -/
def signed (negative : Bool) (n : Nat) : Int :=
  if negative then -n else n

theorem signed_mul (negative : Bool) (n unit : Nat) :
    signed negative (n * unit) = signed negative n * unit := by
  cases negative with
  | false => exact Int.natCast_mul n unit
  | true =>
    have hproduct : (-((n * unit : Nat) : Int)) = -n * unit := by
      rw [Int.natCast_mul, Int.neg_mul]
    exact hproduct

theorem stands_signed (hm : exactBound ≤ m) (hn : exactBound ≤ n) (negative : Bool) :
    Stands (signed negative m) (signed negative n) := by
  cases negative with
  | false => exact .above (Int.ofNat_le.mpr hm) (Int.ofNat_le.mpr hn)
  | true => exact .below (Int.neg_le_neg (Int.ofNat_le.mpr hm)) (Int.neg_le_neg (Int.ofNat_le.mpr hn))

/-! ## Whole numbers -/

/-- A number is finite and the same as an integer. -/
def IsInteger : Binary64 → Int → Prop
  | .finite negative significand exponent, v =>
    units negative significand exponent = v * unitsPerOne
  | .infinite _, _ => False

section IsInteger

variable {number other : Binary64} {v w : Int}

theorem unitsPerOne_pos : 0 < unitsPerOne := by
  have hpos (exponent : Nat) : 0 < (powerOfTwo exponent : Int) :=
    Int.natCast_pos.mpr (powerOfTwo_pos exponent)
  exact hpos 1074

theorem unitsPerOne_ne_zero : unitsPerOne ≠ 0 :=
  Int.ne_of_gt unitsPerOne_pos

theorem isInteger_finite {significand : Nat} {exponent : Int} (negative : Bool)
    (h : significand * powerOfTwo (exponent - minExponent).toNat = n * powerOfTwo 1074) :
    IsInteger (.finite negative significand exponent) (signed negative n) := by
  have hunits : units negative significand exponent = signed negative (n * powerOfTwo 1074) := by
    rw [← h]
    simp only [units, signed, Int.natCast_mul]
  rw [IsInteger, hunits, signed_mul]
  rfl

theorem IsInteger.floor? (h : IsInteger number v) : floor? number = some v := by
  cases number with
  | infinite => exact h.elim
  | finite negative significand exponent =>
    rw [Binary64.floor?, h, Int.mul_fdiv_cancel _ unitsPerOne_ne_zero]

theorem IsInteger.ceil? (h : IsInteger number v) : ceil? number = some v := by
  cases number with
  | infinite => exact h.elim
  | finite negative significand exponent =>
    rw [Binary64.ceil?, h, ← Int.neg_mul, Int.mul_fdiv_cancel _ unitsPerOne_ne_zero, Int.neg_neg]

theorem IsInteger.toInteger (h : IsInteger number v) : toInteger number = clampInteger v := by
  cases number with
  | infinite => exact h.elim
  | finite negative significand exponent =>
    rw [Binary64.toInteger, h, Int.mul_tdiv_cancel _ unitsPerOne_ne_zero]

theorem IsInteger.le_iff (h : IsInteger number v) (h' : IsInteger other w) :
    number.le other ↔ v ≤ w := by
  cases number with
  | infinite => exact h.elim
  | finite =>
    cases other with
    | infinite => exact h'.elim
    | finite =>
      rw [Binary64.le, h, h', decide_eq_true_iff]
      exact Int.mul_le_mul_right unitsPerOne_pos

end IsInteger

/-! ## Words -/

theorem clampInteger_eq_self {v : Int} (hlow : minInteger ≤ v) (hhigh : v ≤ maxInteger) :
    clampInteger v = v := by
  rw [clampInteger]
  omega

theorem clampInteger_mono {v w : Int} (h : v ≤ w) : clampInteger v ≤ clampInteger w := by
  rw [clampInteger, clampInteger]
  omega

/-- Cutting to words leaves what is below the bound as it is, and the rest beyond it. -/
theorem stands_clampInteger (n : Int) : Stands (clampInteger n) n := by
  by_cases hsmall : minInteger ≤ n ∧ n ≤ maxInteger
  · rw [clampInteger_eq_self hsmall.1 hsmall.2]
    exact .same n
  · rw [clampInteger, minInteger, maxInteger] at *
    by_cases hlarge : 0 ≤ n
    · exact .above (by rw [exactBound]; omega) (by rw [exactBound]; omega)
    · exact .below (by rw [exactBound]; omega) (by rw [exactBound]; omega)

/-! ## Quotients -/

theorem roundDiv_mul (hden : 0 < den) (q : Nat) : roundDiv (q * den) den = q := by
  rw [roundDiv, Nat.mul_div_cancel q hden, Nat.mul_mod_left]
  exact if_pos (.inl hden)

theorem roundDiv_one (n : Nat) : roundDiv n 1 = n := by
  simpa using roundDiv_mul Nat.one_pos n

/-- The rounded quotient is off by half at most. -/
theorem roundDiv_bounds (hden : 0 < den) (n : Nat) :
    2 * n ≤ 2 * (roundDiv n den * den) + den ∧ 2 * (roundDiv n den * den) ≤ 2 * n + den := by
  have hsplit : n / den * den + n % den = n := Nat.div_add_mod' n den
  have hnext : (n / den + 1) * den = n / den * den + den := Nat.succ_mul _ _
  have hlt : n % den < den := Nat.mod_lt n hden
  rw [roundDiv]
  split
  · omega
  · rw [hnext]
    omega

theorem roundDiv_mono (h : m ≤ n) (den : Nat) : roundDiv m den ≤ roundDiv n den := by
  have hm : m / den * den + m % den = m := Nat.div_add_mod' m den
  have hn : n / den * den + n % den = n := Nat.div_add_mod' n den
  rw [roundDiv, roundDiv]
  rcases Nat.lt_or_eq_of_le (Nat.div_le_div_right (c := den) h) with hlt | heq
  · split <;> split <;> omega
  · -- the larger remainder is not rounded down where the smaller one is rounded up
    rw [heq] at hm
    rw [heq]
    split <;> split <;> omega

/-! ## Fifty-three bits -/

/-- The number of low bits that are rounded away. -/
def droppedBits (n : Nat) : Nat :=
  n.log2 - (precision - 1)

/-- A natural number rounded to 53 significant bits, a tie to the even neighbour. -/
def rounded (n : Nat) : Nat :=
  roundDiv n (powerOfTwo (droppedBits n)) * powerOfTwo (droppedBits n)

/-- **No bit is lost** below 2 to the 53rd: the number is not changed by rounding. -/
theorem rounded_of_lt (h : n < exactBound) : rounded n = n := by
  have hnone : droppedBits n = 0 := by
    rcases Nat.eq_zero_or_pos n with rfl | hpos
    · rfl
    · have hlog : n.log2 < 53 := (Nat.log2_lt (Nat.ne_of_gt hpos)).mpr h
      rw [droppedBits, precision]
      omega
  have hone : powerOfTwo 0 = 1 := rfl
  rw [rounded, hnone, hone, roundDiv_one, Nat.mul_one]

/-- Rounding does not fall short of a power of two that the number reaches. -/
theorem powerOfTwo_le_rounded {e : Nat} (h : powerOfTwo e ≤ n) (he : droppedBits n ≤ e) :
    powerOfTwo e ≤ rounded n := by
  obtain ⟨k, rfl⟩ := Nat.exists_eq_add_of_le' he
  rw [powerOfTwo_add] at h ⊢
  refine Nat.mul_le_mul_right _ ?_
  calc powerOfTwo k
      = roundDiv (powerOfTwo k * powerOfTwo (droppedBits n)) (powerOfTwo (droppedBits n)) :=
        (roundDiv_mul (powerOfTwo_pos _) _).symm
    _ ≤ roundDiv n (powerOfTwo (droppedBits n)) := roundDiv_mono h _

/-- Rounding does not go past a power of two that the number does not exceed. -/
theorem rounded_le_powerOfTwo {e : Nat} (h : n ≤ powerOfTwo e) (he : droppedBits n ≤ e) :
    rounded n ≤ powerOfTwo e := by
  obtain ⟨k, rfl⟩ := Nat.exists_eq_add_of_le' he
  rw [powerOfTwo_add] at h ⊢
  refine Nat.mul_le_mul_right _ ?_
  calc roundDiv n (powerOfTwo (droppedBits n))
      ≤ roundDiv (powerOfTwo k * powerOfTwo (droppedBits n)) (powerOfTwo (droppedBits n)) :=
        roundDiv_mono h _
    _ = powerOfTwo k := roundDiv_mul (powerOfTwo_pos _) _

theorem exactBound_le_rounded (h : exactBound ≤ n) : exactBound ≤ rounded n := by
  have hbound : exactBound = powerOfTwo 53 := rfl
  have hlog : 53 ≤ n.log2 := (Nat.le_log2 (Nat.ne_of_gt (Nat.lt_of_lt_of_le (by decide) h))).mpr h
  have hreached : powerOfTwo n.log2 ≤ rounded n :=
    powerOfTwo_le_rounded (Nat.log2_self_le (Nat.ne_of_gt (Nat.lt_of_lt_of_le (by decide) h)))
      (Nat.sub_le _ _)
  exact hbound ▸ Nat.le_trans (powerOfTwo_mono hlog) hreached

/-- **Rounding keeps the order.** Numbers of one length are rounded at one place, and a power of two
lies between those of different lengths. -/
theorem rounded_mono (h : m ≤ n) : rounded m ≤ rounded n := by
  rcases Nat.eq_zero_or_pos m with rfl | hpos
  · exact Nat.zero_le _
  have hn : n ≠ 0 := by omega
  have hlog : m.log2 ≤ n.log2 := (Nat.le_log2 hn).mpr (Nat.le_trans (Nat.log2_self_le (Nat.ne_of_gt hpos)) h)
  rcases Nat.lt_or_eq_of_le hlog with hlt | heq
  · calc rounded m
        ≤ powerOfTwo (m.log2 + 1) :=
          rounded_le_powerOfTwo (Nat.le_of_lt Nat.lt_log2_self) (by rw [droppedBits]; omega)
      _ ≤ powerOfTwo n.log2 := powerOfTwo_mono hlt
      _ ≤ rounded n := powerOfTwo_le_rounded (Nat.log2_self_le hn) (Nat.sub_le _ _)
  · rw [rounded, rounded, droppedBits, droppedBits, heq]
    exact Nat.mul_le_mul_right _ (roundDiv_mono h _)

/-! ## Nearness -/

/-- Multiples of the divisor are no nearer than the rounded one. -/
theorem roundDiv_nearest (hden : 0 < den) (n q : Nat) :
    ((roundDiv n den * den : Nat) - (n : Int)).natAbs ≤ ((q * den : Nat) - (n : Int)).natAbs := by
  have hbounds := roundDiv_bounds hden n
  rcases Nat.lt_trichotomy q (roundDiv n den) with hlt | rfl | hlt
  · have hbelow : q * den + den ≤ roundDiv n den * den :=
      Nat.succ_mul q den ▸ Nat.mul_le_mul_right den hlt
    omega
  · exact Nat.le_refl _
  · have habove : roundDiv n den * den + den ≤ q * den :=
      Nat.succ_mul _ den ▸ Nat.mul_le_mul_right den hlt
    omega

/-- **No number with 53 significant bits is nearer than the rounded one.** What has its last bit at
the place where the number is rounded, or above it, is a multiple; everything else is below the
highest bit of the number. -/
theorem rounded_nearest {significand : Nat} (h : significand ≤ powerOfTwo precision)
    (exponent n : Nat) :
    ((rounded n : Nat) - (n : Int)).natAbs ≤
      ((significand * powerOfTwo exponent : Nat) - (n : Int)).natAbs := by
  rcases Nat.lt_or_ge n exactBound with hlt | hle
  · rw [rounded_of_lt hlt]
    omega
  have hn : n ≠ 0 := Nat.ne_of_gt (Nat.lt_of_lt_of_le (by decide) hle)
  have hlog : 53 ≤ n.log2 := (Nat.le_log2 hn).mpr hle
  have hdropped : n.log2 = 52 + droppedBits n := by
    rw [droppedBits, precision]
    omega
  have hpos := powerOfTwo_pos (droppedBits n)
  rcases Nat.lt_or_ge exponent (droppedBits n) with hlow | hhigh
  · have htop : powerOfTwo 52 * powerOfTwo (droppedBits n) ≤ n := by
      rw [← powerOfTwo_add, ← hdropped]
      exact Nat.log2_self_le hn
    have hsmall : significand * powerOfTwo exponent ≤ powerOfTwo 52 * powerOfTwo (droppedBits n) := by
      rw [← powerOfTwo_add]
      refine Nat.le_trans (Nat.mul_le_mul_right _ h) ?_
      rw [← powerOfTwo_add, precision]
      exact powerOfTwo_mono (by omega)
    have hmultiple := roundDiv_nearest hpos n (powerOfTwo 52)
    rw [rounded]
    omega
  · obtain ⟨k, rfl⟩ := Nat.exists_eq_add_of_le' hhigh
    rw [rounded, powerOfTwo_add, ← Nat.mul_assoc]
    exact roundDiv_nearest hpos n _

/-- A number of no more than 53 significant bits is not changed by rounding. -/
theorem rounded_of_fits {significand : Nat} (h : significand ≤ powerOfTwo precision)
    (exponent : Nat) :
    rounded (significand * powerOfTwo exponent) = significand * powerOfTwo exponent := by
  have hnearest := rounded_nearest h exponent (significand * powerOfTwo exponent)
  omega

/-! ## Reading -/

/-- A whole number fills the significand at the exponent of its highest bit. -/
theorem fittingExponent_one (hn : n ≠ 0) : fittingExponent n 1 = (n.log2 : Int) - 52 := by
  have hone : Nat.log2 1 = 0 := rfl
  have hreaches : reaches n 1 n.log2 := by
    rw [reaches, if_pos (Int.natCast_nonneg _), Int.toNat_natCast, Nat.one_mul]
    exact decide_eq_true (Nat.log2_self_le hn)
  simp only [fittingExponent, hone, Int.natCast_zero, Int.sub_zero, hreaches, if_true, precision,
    minExponent]
  omega

/-- At the exponent of its highest bit, the significand of a whole number is that of the number
rounded. -/
theorem scaleRound_one (n : Nat) :
    scaleRound n 1 (n.log2 - 52) * powerOfTwo (n.log2 - 52 - minExponent).toNat
      = rounded n * powerOfTwo 1074 := by
  rw [scaleRound, minExponent]
  split
  · -- the low bits are rounded away
    have hdropped : ((n.log2 : Int) - 52).toNat = droppedBits n := by
      rw [droppedBits, precision]
      omega
    have hsum : ((n.log2 : Int) - 52 - -1074).toNat = droppedBits n + 1074 := by omega
    rw [hdropped, hsum, powerOfTwo_add, Nat.one_mul, rounded, Nat.mul_assoc]
  · -- there are bits to spare
    have hsum : (-((n.log2 : Int) - 52)).toNat + ((n.log2 : Int) - 52 - -1074).toNat = 1074 := by
      omega
    have hlt : n < exactBound := by
      rcases Nat.eq_zero_or_pos n with rfl | hpos
      · decide
      · have hlog : n.log2 < 53 := by omega
        exact (Nat.log2_lt (Nat.ne_of_gt hpos)).mp hlog
    rw [roundDiv_one, rounded_of_lt hlt, Nat.mul_assoc, ← powerOfTwo_add, hsum]

/-- **A whole number is read as itself rounded** to 53 significant bits, unless that is too large
for a double. -/
theorem isInteger_ofRatio_or (negative : Bool) (n : Nat) :
    IsInteger (ofRatio negative n 1) (signed negative (rounded n)) ∨
      ofRatio negative n 1 = .infinite negative ∧ 1022 < n.log2 := by
  by_cases hzero : n = 0
  · subst hzero
    have hnone : 0 * powerOfTwo ((0 : Int) - minExponent).toNat = rounded 0 * powerOfTwo 1074 := by
      rw [rounded_of_lt (by decide), Nat.zero_mul, Nat.zero_mul]
    rw [ofRatio, if_pos rfl]
    exact .inl (isInteger_finite negative hnone)
  have hvalue := scaleRound_one n
  simp only [ofRatio, if_neg hzero, fittingExponent_one hzero]
  generalize scaleRound n 1 (n.log2 - 52) = significand at hvalue
  rw [minExponent] at hvalue
  by_cases hcarried : significand == powerOfTwo precision
  · -- a carry out of the top bit: half the significand at the next exponent
    have hhalf : powerOfTwo (precision - 1) * powerOfTwo ((n.log2 : Int) - 52 + 1 - minExponent).toNat
        = rounded n * powerOfTwo 1074 := by
      have hnext : ((n.log2 : Int) - 52 + 1 - minExponent).toNat
          = 1 + ((n.log2 : Int) - 52 - -1074).toNat := by
        rw [minExponent]
        omega
      rw [← hvalue, beq_iff_eq.mp hcarried, hnext, powerOfTwo_add, ← Nat.mul_assoc, ← powerOfTwo_add]
      rfl
    simp only [hcarried, if_true]
    split
    · next hlarge => exact .inr ⟨rfl, by rw [maxExponent] at hlarge; omega⟩
    · exact .inl (isInteger_finite negative hhalf)
  · simp only [hcarried, Bool.false_eq_true, if_false]
    split
    · next hlarge => exact .inr ⟨rfl, by rw [maxExponent] at hlarge; omega⟩
    · exact .inl (isInteger_finite negative hvalue)

/-! ## Integers -/

/-- An integer rounded to 53 significant bits, a tie to the even neighbour. -/
def nearest (v : Int) : Int :=
  if v < 0 then -rounded v.natAbs else rounded v.natAbs

theorem nearest_signed (negative : Bool) (n : Nat) :
    nearest (signed negative n) = signed negative (rounded n) := by
  have hzero : rounded 0 = 0 := rounded_of_lt (by decide)
  cases negative with
  | false =>
    have hnonneg : ¬ (n : Int) < 0 := Int.not_lt.mpr (Int.natCast_nonneg n)
    simp [nearest, signed, hnonneg]
  | true =>
    rcases Nat.eq_zero_or_pos n with rfl | hpos
    · simp [nearest, signed, hzero]
    · simp [nearest, signed, hpos]

theorem nearest_mono {v w : Int} (h : v ≤ w) : nearest v ≤ nearest w := by
  rw [nearest, nearest]
  split
  · split
    · have hle : rounded w.natAbs ≤ rounded v.natAbs := rounded_mono (by omega)
      omega
    · omega
  · have hle : rounded v.natAbs ≤ rounded w.natAbs := rounded_mono (by omega)
    rw [if_neg (by omega)]
    omega

/-- An integer has 53 significant bits at most. -/
def Fits (v : Int) : Prop :=
  ∃ significand exponent, significand ≤ powerOfTwo precision ∧
    v.natAbs = significand * powerOfTwo exponent

theorem Fits.nearest_eq {v : Int} (h : Fits v) : nearest v = v := by
  obtain ⟨significand, exponent, hle, hvalue⟩ := h
  have hrounded := rounded_of_fits hle exponent
  rw [nearest, hvalue, hrounded]
  split <;> omega

theorem stands_toInteger_ofRatio (negative : Bool) (n : Nat) :
    Stands (toInteger (ofRatio negative n 1)) (signed negative n) := by
  rcases isInteger_ofRatio_or negative n with hinteger | ⟨hinfinite, hlog⟩
  · rw [hinteger.toInteger]
    refine (stands_clampInteger _).trans ?_
    rcases Nat.lt_or_ge n exactBound with hlt | hle
    · rw [rounded_of_lt hlt]
      exact .same _
    · exact stands_signed (exactBound_le_rounded hle) hle negative
  · -- the least and the greatest integer stand for any number beyond the bound
    have hn : n ≠ 0 := by
      rintro rfl
      exact absurd hlog (by decide)
    have hle : exactBound ≤ n := (Nat.le_log2 (k := 53) hn).mp (by omega)
    rw [hinfinite]
    cases negative with
    | false => exact .above (by decide) (Int.ofNat_le.mpr hle)
    | true => exact .below (by decide) (Int.neg_le_neg (Int.ofNat_le.mpr hle))

end Binary64

end Rowwise
