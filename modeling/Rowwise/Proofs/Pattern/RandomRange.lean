import Mathlib.Order.Monotone.Basic
import Rowwise.Proofs.Pattern.Ranges

/-!
# Pattern — Random range

The integers that `random` can answer. Its arguments are read as doubles and their bounds are cut to
words, and both show: the answers are exactly the integers between the two arguments as they are
read (`mayGive_random_iff`). So they keep to the arguments as they are written if and only if reading
does not move the lower one down or the upper one up (`random_range`): always where both are words
with 53 significant bits, but not for `2 ^ 63`, say, which is read as the word before it.
-/

namespace Rowwise

open Rowwise.Number (digitsText integerText)
open Rowwise.Selector (Denotes)

namespace Number

/-- A decimal is that of one integer only. -/
theorem integerText_injective {m n : Int} (h : integerText m = integerText n) : m = n := by
  have hminus (k : Nat) (rest : Text) : digitsText k ≠ '-' :: rest := fun heq =>
    absurd (isDigit_of_mem_digitsText (n := k) (heq ▸ List.mem_cons_self)) (by decide)
  have hdigits {j k : Nat} (heq : digitsText j = digitsText k) : j = k := by
    rw [← readDigits_digitsText j, heq, readDigits_digitsText]
  rw [integerText, integerText] at h
  split at h <;> split at h
  · have := hdigits (List.cons.inj h).2
    omega
  · exact absurd h.symm (hminus _ _)
  · exact absurd h (hminus _ _)
  · have := hdigits h
    omega

/-- So many digits write a number below so large a power of ten. -/
theorem magnitude_lt {digits : Text} (h : ∀ c ∈ digits, c.isDigit) :
    magnitude digits < 10 ^ digits.length := by
  induction digits with
  | nil => decide
  | cons c rest ih =>
    have hvalue : digitValue c ≤ 9 := by
      have hcode := Numeral.toNat_of_isDigit (h c List.mem_cons_self)
      have hzero : '0'.toNat = 48 := rfl
      rw [digitValue, hzero]
      omega
    have hrest := ih fun d hd => h d (List.mem_cons_of_mem c hd)
    have hfirst : digitValue c * 10 ^ rest.length ≤ 9 * 10 ^ rest.length :=
      Nat.mul_le_mul_right _ hvalue
    rw [magnitude_cons, List.length_cons, Nat.pow_succ]
    omega

/-- Three decimal digits take ten bits at most. -/
theorem log2_lt_of_lt_pow {n digits k : Nat} (h : n < 10 ^ digits) (hdigits : digits ≤ 3 * k)
    (hk : 0 < k) : n.log2 < 10 * k := by
  rcases Nat.eq_zero_or_pos n with rfl | hpos
  · rw [Nat.log2_zero]
    omega
  · refine (Nat.log2_lt (Nat.ne_of_gt hpos)).mpr ?_
    calc n < 10 ^ digits := h
      _ ≤ 10 ^ (3 * k) := Nat.pow_le_pow_right (by decide) hdigits
      _ = (10 ^ 3) ^ k := Nat.pow_mul 10 3 k
      _ ≤ (2 ^ 10) ^ k := Nat.pow_le_pow_left (by decide) k
      _ = 2 ^ (10 * k) := (Nat.pow_mul 2 10 k).symm

end Number

namespace Draws

variable {least most n : Int}

/-- **Every integer of a range can be drawn**, and no other. -/
theorem exists_integer_iff (h : least ≤ most) :
    (∃ draws : Draws, (draws.integer least most).1 = n) ↔ least ≤ n ∧ n ≤ most := by
  have hinteger (draws : Draws) : (draws.integer least most).1
      = least + (draws.source draws.used : Int) % (most - least + 1) := rfl
  constructor
  · rintro ⟨draws, rfl⟩
    have hpos : 0 < most - least + 1 := by omega
    have hlow := Int.emod_nonneg (draws.source draws.used : Int) (Int.ne_of_gt hpos)
    have hhigh := Int.emod_lt_of_pos (draws.source draws.used : Int) hpos
    rw [hinteger]
    omega
  · rintro ⟨hlow, hhigh⟩
    refine ⟨⟨fun _ => (n - least).toNat, 0⟩, ?_⟩
    rw [hinteger, Int.toNat_of_nonneg (by omega), Int.emod_eq_of_lt (by omega) (by omega)]
    omega

end Draws

namespace Selector

/-- So many digits denote an integer below so large a power of ten. -/
theorem Denotes.natAbs_lt {text : Text} {value : Int} (h : Denotes text value) :
    value.natAbs < 10 ^ text.countP Char.isDigit := by
  have hcount {digits : Text} (h : Digits digits) : digits.countP Char.isDigit = digits.length :=
    List.countP_eq_length.mpr h.isDigit
  cases h with
  | unsigned h =>
    rw [hcount h, Int.natAbs_natCast]
    exact Number.magnitude_lt h.isDigit
  | plus h =>
    rw [List.countP_cons_of_neg (by decide), hcount h, Int.natAbs_natCast]
    exact Number.magnitude_lt h.isDigit
  | minus h =>
    rw [List.countP_cons_of_neg (by decide), hcount h, Int.natAbs_neg, Int.natAbs_natCast]
    exact Number.magnitude_lt h.isDigit

end Selector

namespace Function

open Rowwise.Binary64 (IsInteger clampInteger nearest)

variable {a b : Text} {x y v w : Int} {p q : Binary64} {result : CallResult}

/-! ## The bounds -/

/-- The word that an integer is read as: the nearest double, cut to the range of words. -/
def wordOf (x : Int) : Int :=
  clampInteger (nearest x)

theorem wordOf_mono (h : x ≤ y) : wordOf x ≤ wordOf y :=
  Binary64.clampInteger_mono (Binary64.nearest_mono h)

/-- Up to 300 digits an argument is no infinity. -/
theorem exists_isInteger (h : Denotes a x) (hdigits : a.countP Char.isDigit ≤ 300) :
    ∃ p, toNumber? a = some p ∧ IsInteger p (nearest x) := by
  have hlt := h.natAbs_lt
  obtain ⟨negative, n, hnumber, rfl⟩ := toNumber?_of_denotes h
  refine ⟨_, hnumber, ?_⟩
  rw [Binary64.nearest_signed]
  refine (Binary64.isInteger_ofRatio_or negative n).resolve_right fun ⟨_, hlog⟩ => ?_
  have habs : (Binary64.signed negative n).natAbs = n := by
    cases negative <;> simp [Binary64.signed]
  have hshort : n.log2 < 10 * 100 := Number.log2_lt_of_lt_pow (habs ▸ hlt) (by omega) (by decide)
  exact absurd (Nat.lt_trans hlog hshort) (by decide)

/-- Between whole numbers a word is drawn, whichever of them is given first. -/
theorem random_of_isInteger (ha : toNumber? a = some p) (hp : IsInteger p v)
    (hb : toNumber? b = some q) (hq : IsInteger q w) (draws : Draws) :
    (random a b draws).1 = .ok (integerText
      (draws.integer (clampInteger (min v w)) (clampInteger (max v w))).1) := by
  rw [random, ha, hb]
  by_cases hle : v ≤ w
  · have horder : p.le q := (hp.le_iff hq).mpr hle
    simp only [horder, if_true, hp.ceil?, hq.floor?, if_pos hle]
    rw [Int.min_eq_left hle, Int.max_eq_right hle]
  · have horder : p.le q = false := Bool.eq_false_iff.mpr (mt (hp.le_iff hq).mp hle)
    have hge : w ≤ v := by omega
    simp only [horder, Bool.false_eq_true, if_false, hq.ceil?, hp.floor?, if_pos hge]
    rw [Int.min_eq_right hge, Int.max_eq_left hge]

/-- **The answers are the integers between the arguments as they are read**, all of them. -/
theorem mayGive_random_iff (ha : Denotes a x) (hb : Denotes b y)
    (hdigits : a.countP Char.isDigit ≤ 300) (hdigits' : b.countP Char.isDigit ≤ 300) :
    MayGive "random".toList [a, b] result ↔
      ∃ n, wordOf (min x y) ≤ n ∧ n ≤ wordOf (max x y) ∧ result = .ok (integerText n) := by
  obtain ⟨p, hp, hinteger⟩ := exists_isInteger ha hdigits
  obtain ⟨q, hq, hinteger'⟩ := exists_isInteger hb hdigits'
  have hmono : Monotone nearest := fun _ _ => Binary64.nearest_mono
  have hrandom (draws : Draws) : (random a b draws).1
      = .ok (integerText (draws.integer (wordOf (min x y)) (wordOf (max x y))).1) := by
    rw [random_of_isInteger hp hinteger hq hinteger', ← hmono.map_min, ← hmono.map_max]
    rfl
  have hbounds : wordOf (min x y) ≤ wordOf (max x y) := wordOf_mono (by omega)
  rw [mayGive_iff rfl]
  constructor
  · rintro ⟨draws, rfl⟩
    obtain ⟨hlow, hhigh⟩ := (Draws.exists_integer_iff hbounds).mp ⟨draws, rfl⟩
    exact ⟨_, hlow, hhigh, hrandom draws⟩
  · rintro ⟨n, hlow, hhigh, rfl⟩
    obtain ⟨draws, rfl⟩ := (Draws.exists_integer_iff hbounds).mpr ⟨hlow, hhigh⟩
    exact ⟨draws, hrandom draws⟩

/-! ## The range -/

/-- Whatever is drawn, the answer is an integer between the two that the arguments write. -/
def Confined (a b : Text) (x y : Int) : Prop :=
  ∀ result, MayGive "random".toList [a, b] result →
    ∃ n, min x y ≤ n ∧ n ≤ max x y ∧ result = .ok (integerText n)

/-- A word that is a double. -/
def IsExact (x : Int) : Prop :=
  Binary64.Fits x ∧ Binary64.minInteger ≤ x ∧ x ≤ Binary64.maxInteger

theorem wordOf_of_isExact (h : IsExact x) : wordOf x = x := by
  obtain ⟨hfits, hlow, hhigh⟩ := h
  rw [wordOf, hfits.nearest_eq, Binary64.clampInteger_eq_self hlow hhigh]

/-- **Random integers keep to their range if and only if reading keeps its bounds.** With up to 300
digits every draw succeeds, and the answers are the integers between the words that the two arguments
are read as, in either order. So they lie between the arguments as they are written exactly where
the lower one is not read as something lower nor the upper one as something higher, and always where
both are words of 53 significant bits. -/
theorem random_range (ha : Denotes a x) (hb : Denotes b y)
    (hdigits : a.countP Char.isDigit ≤ 300) (hdigits' : b.countP Char.isDigit ≤ 300) :
    (∀ result, MayGive "random".toList [a, b] result ↔
      ∃ n, wordOf (min x y) ≤ n ∧ n ≤ wordOf (max x y) ∧ result = .ok (integerText n)) ∧
    (Confined a b x y ↔ min x y ≤ wordOf (min x y) ∧ wordOf (max x y) ≤ max x y) ∧
    (IsExact x → IsExact y → Confined a b x y) := by
  have hanswers (result : CallResult) : MayGive "random".toList [a, b] result ↔
      ∃ n, wordOf (min x y) ≤ n ∧ n ≤ wordOf (max x y) ∧ result = .ok (integerText n) :=
    mayGive_random_iff ha hb hdigits hdigits'
  have hbounds : wordOf (min x y) ≤ wordOf (max x y) := wordOf_mono (by omega)
  have hconfined : Confined a b x y ↔
      min x y ≤ wordOf (min x y) ∧ wordOf (max x y) ≤ max x y := by
    constructor
    · intro h
      obtain ⟨n, hlow, -, hn⟩ := h _ ((hanswers _).mpr ⟨_, Int.le_refl _, hbounds, rfl⟩)
      obtain ⟨m, -, hhigh, hm⟩ := h _ ((hanswers _).mpr ⟨_, hbounds, Int.le_refl _, rfl⟩)
      rw [Number.integerText_injective (Except.ok.inj hn),
        Number.integerText_injective (Except.ok.inj hm)]
      exact ⟨hlow, hhigh⟩
    · rintro ⟨hlow, hhigh⟩ result hresult
      obtain ⟨n, hleast, hmost, rfl⟩ := (hanswers result).mp hresult
      exact ⟨n, by omega, by omega, rfl⟩
  refine ⟨hanswers, hconfined, fun hx hy => hconfined.mpr ?_⟩
  have hmin : wordOf (min x y) = min x y := by
    rcases Int.le_total x y with h | h
    · rw [Int.min_eq_left h, wordOf_of_isExact hx]
    · rw [Int.min_eq_right h, wordOf_of_isExact hy]
  have hmax : wordOf (max x y) = max x y := by
    rcases Int.le_total x y with h | h
    · rw [Int.max_eq_right h, wordOf_of_isExact hy]
    · rw [Int.max_eq_left h, wordOf_of_isExact hx]
  exact ⟨hmin.ge, hmax.le⟩

/-- The first integer after a tie that is rounded up. -/
def tied : Text :=
  "9007199254740995".toList

/-- A bound that is rounded up, and may then be drawn. -/
theorem random_range_rounded :
    Denotes tied 0x20000000000003 ∧ Denotes ['-', '1', '2'] (-12) ∧
      tied.countP Char.isDigit ≤ 300 ∧ ['-', '1', '2'].countP Char.isDigit ≤ 300 ∧
      MayGive "random".toList [tied, ['-', '1', '2']] (.ok (integerText 0x20000000000004)) ∧
      ¬ Confined tied ['-', '1', '2'] 0x20000000000003 (-12) := by
  have htied : Denotes tied 0x20000000000003 := .unsigned ⟨by decide, List.all_eq_true.mp rfl⟩
  have hsmall : Denotes ['-', '1', '2'] (-12) := .minus ⟨by decide, List.all_eq_true.mp rfl⟩
  have hdigits : tied.countP Char.isDigit ≤ 300 := by decide
  have hdigits' : ['-', '1', '2'].countP Char.isDigit ≤ 300 := by decide
  obtain ⟨hanswers, hconfined, -⟩ := random_range htied hsmall hdigits hdigits'
  refine ⟨htied, hsmall, hdigits, hdigits', (hanswers _).mpr ⟨_, ?_, ?_, rfl⟩, fun h => ?_⟩
  · decide +kernel
  · decide +kernel
  · exact absurd (hconfined.mp h) (by decide +kernel)

/-- The least integer above all words. -/
def beyondWords : Text :=
  "9223372036854775808".toList

/-- Between a number and itself there is no word, and the answer is the word below it. -/
theorem random_saturates :
    MayGive "random".toList [beyondWords, beyondWords] (.ok (integerText 0x7FFFFFFFFFFFFFFF)) ∧
    ¬ ∀ a b x y, Denotes a x → Denotes b y → a.countP Char.isDigit ≤ 300 →
      b.countP Char.isDigit ≤ 300 → Confined a b x y := by
  have hbeyond : Denotes beyondWords 0x8000000000000000 :=
    .unsigned ⟨by decide, List.all_eq_true.mp rfl⟩
  have hdigits : beyondWords.countP Char.isDigit ≤ 300 := by decide
  have hanswer : MayGive "random".toList [beyondWords, beyondWords]
      (.ok (integerText 0x7FFFFFFFFFFFFFFF)) :=
    (mayGive_random_iff hbeyond hbeyond hdigits hdigits).mpr
      ⟨_, by decide +kernel, by decide +kernel, rfl⟩
  refine ⟨hanswer, fun h => ?_⟩
  obtain ⟨n, hlow, -, hn⟩ := h _ _ _ _ hbeyond hbeyond hdigits hdigits _ hanswer
  rw [← Number.integerText_injective (Except.ok.inj hn)] at hlow
  exact absurd hlow (by decide)

end Function

end Rowwise
