import Mathlib.Data.List.Nodup
import Rowwise.Regex.Meaning

/-!
# Regex — Sets

What is in the sets that classes are made of. A set is a list of ranges; sorting and merging ranges
keeps what they cover (`contains_ofRanges`), and the gaps between ascending ranges are the complement
(`contains_compl`). From these two the classes `\w` and `\S` are the word characters and what is no
white space (`contains_word`, `contains_notSpace`).
-/

namespace Rowwise

namespace Text

variable {code : Nat} {range : Nat × Nat} {ranges : List (Nat × Nat)}

@[simp] theorem inRanges_nil : inRanges [] code = false := rfl

theorem inRanges_cons : inRanges (range :: ranges) code ↔
    (range.1 ≤ code ∧ code ≤ range.2) ∨ inRanges ranges code := by
  simp [inRanges]

theorem inRanges_append (others : List (Nat × Nat)) :
    inRanges (ranges ++ others) code = (inRanges ranges code || inRanges others code) :=
  List.any_append

theorem inRanges_iff : inRanges ranges code ↔
    ∃ range ∈ ranges, range.1 ≤ code ∧ code ≤ range.2 := by
  simp [inRanges]

end Text

namespace Regex

namespace CharSet

open Rowwise.Text (inRanges inRanges_cons inRanges_iff)

variable {code low high : Nat} {range : Nat × Nat} {ranges : List (Nat × Nat)} {c : Char}
  {set : CharSet}

theorem mem_cons : mem code (range :: ranges) ↔
    range.1 ≤ code ∧ (code ≤ range.2 ∨ mem code ranges) := by
  rw [mem]
  split
  · simp
    omega
  · simp
    omega

/-! ## Merging -/

/-- Ranges that start from somewhere on cover nothing before it. -/
theorem le_of_inRanges (hsorted : ∀ range ∈ ranges, low ≤ range.1) (h : inRanges ranges code) :
    low ≤ code := by
  obtain ⟨range, hrange, hle, -⟩ := inRanges_iff.mp h
  exact Nat.le_trans (hsorted range hrange) hle

/-- Joining ranges that overlap or touch covers what they cover. -/
theorem mem_go (hsorted : ((low, high) :: ranges).Pairwise fun a b => a.1 ≤ b.1) :
    mem code (merge.go low high ranges) ↔ inRanges ((low, high) :: ranges) code := by
  induction ranges generalizing low high with
  | nil => simp [merge.go, mem, inRanges_cons]
  | cons next rest ih =>
    obtain ⟨⟨hnext, hfirst⟩, hlater, hrest⟩ : (low ≤ next.1 ∧ ∀ range ∈ rest, low ≤ range.1) ∧
        (∀ range ∈ rest, next.1 ≤ range.1) ∧ rest.Pairwise fun a b => a.1 ≤ b.1 := by
      simpa [List.pairwise_cons] using hsorted
    rw [merge.go, inRanges_cons, inRanges_cons]
    split
    · rw [ih (List.pairwise_cons.mpr ⟨hfirst, hrest⟩), inRanges_cons, ← or_assoc]
      refine or_congr_left ?_
      omega
    · have hcovered : inRanges (next :: rest) code → low ≤ code :=
        le_of_inRanges (List.forall_mem_cons.mpr ⟨hnext, hfirst⟩)
      rw [inRanges_cons] at hcovered
      rw [mem_cons, ih (List.pairwise_cons.mpr ⟨hlater, hrest⟩), inRanges_cons]
      constructor
      · rintro ⟨hlow, hhigh | hrest⟩
        · exact .inl ⟨hlow, hhigh⟩
        · exact .inr hrest
      · rintro (⟨hlow, hhigh⟩ | hrest)
        · exact ⟨hlow, .inl hhigh⟩
        · exact ⟨hcovered hrest, .inr hrest⟩

theorem inRanges_perm {others : List (Nat × Nat)} (h : ranges.Perm others) :
    inRanges ranges code = inRanges others code :=
  h.any_eq

theorem pairwise_mergeSort_starts (ranges : List (Nat × Nat)) :
    (ranges.mergeSort fun a b => a.1 ≤ b.1).Pairwise fun a b => a.1 ≤ b.1 := by
  have hsorted : (ranges.mergeSort fun a b => a.1 ≤ b.1).Pairwise fun a b => decide (a.1 ≤ b.1) :=
    List.pairwise_mergeSort (fun a b c => by simpa using Nat.le_trans)
      (fun a b => by simpa using Nat.le_total a.1 b.1) ranges
  simpa using hsorted

/-- Sorting ranges that start at different code points gives their one ascending order. -/
theorem ofRanges_of_perm {sorted : List (Nat × Nat)} (hperm : sorted.Perm ranges)
    (hsorted : sorted.Pairwise fun a b => a.1 < b.1) : ofRanges ranges = ⟨merge sorted⟩ := by
  have hstarts : (sorted.map Prod.fst).Nodup := by
    rw [List.Nodup, List.pairwise_map]
    exact hsorted.imp Nat.ne_of_lt
  have hmerged : (ranges.mergeSort fun a b => a.1 ≤ b.1).Perm sorted :=
    (List.mergeSort_perm ranges _).trans hperm.symm
  have hunique : ∀ a b, a ∈ ranges.mergeSort (fun a b => a.1 ≤ b.1) → b ∈ sorted →
      a.1 ≤ b.1 → b.1 ≤ a.1 → a = b := fun a b ha hb hle hge =>
    List.inj_on_of_nodup_map hstarts (hmerged.mem_iff.mp ha) hb (Nat.le_antisymm hle hge)
  rw [ofRanges, hmerged.eq_of_pairwise hunique (pairwise_mergeSort_starts ranges)
    (hsorted.imp Nat.le_of_lt)]

/-- **A set of ranges contains what the ranges cover**, in whatever order they are given. -/
theorem contains_ofRanges : (ofRanges ranges).contains c ↔ inRanges ranges c.toNat := by
  have hsorted := pairwise_mergeSort_starts ranges
  rw [← inRanges_perm (List.mergeSort_perm ranges fun a b => a.1 ≤ b.1), contains, ofRanges]
  cases hranges : ranges.mergeSort fun a b => a.1 ≤ b.1 with
  | nil => simp [merge, mem]
  | cons range rest => exact mem_go (hranges ▸ hsorted)

/-! ## Complements -/

/-- Ranges in ascending order, none of them empty, the first from `low` on. -/
def Ascending (low : Nat) : List (Nat × Nat) → Prop
  | [] => True
  | range :: rest => low ≤ range.1 ∧ range.1 ≤ range.2 ∧ Ascending (range.2 + 1) rest

theorem Ascending.mono (h : Ascending high ranges) (hle : low ≤ high) : Ascending low ranges := by
  cases ranges with
  | nil => trivial
  | cons range rest => exact ⟨Nat.le_trans hle h.1, h.2⟩

theorem ascending_go (hsorted : ((low, high) :: ranges).Pairwise fun a b => a.1 ≤ b.1)
    (hfull : ∀ range ∈ (low, high) :: ranges, range.1 ≤ range.2) :
    Ascending low (merge.go low high ranges) := by
  induction ranges generalizing low high with
  | nil => exact ⟨Nat.le_refl low, hfull _ List.mem_cons_self, trivial⟩
  | cons next rest ih =>
    obtain ⟨⟨hnext, hfirst⟩, hlater, hrest⟩ : (low ≤ next.1 ∧ ∀ range ∈ rest, low ≤ range.1) ∧
        (∀ range ∈ rest, next.1 ≤ range.1) ∧ rest.Pairwise fun a b => a.1 ≤ b.1 := by
      simpa [List.pairwise_cons] using hsorted
    obtain ⟨hrange, hnextFull, hrestFull⟩ := List.forall_mem_cons.mp hfull |>.imp_right
      List.forall_mem_cons.mp
    rw [merge.go]
    split
    · have hjoined : low ≤ max high next.2 := Nat.le_trans hrange (Nat.le_max_left _ _)
      exact ih (List.pairwise_cons.mpr ⟨hfirst, hrest⟩) (List.forall_mem_cons.mpr ⟨hjoined, hrestFull⟩)
    · next hgap =>
      have htail := ih (List.pairwise_cons.mpr ⟨hlater, hrest⟩)
        (List.forall_mem_cons.mpr ⟨hnextFull, hrestFull⟩)
      exact ⟨Nat.le_refl low, hrange, htail.mono (by omega)⟩

/-- The set of some ranges that are not empty is an ascending one. -/
theorem ascending_ofRanges (hfull : ∀ range ∈ ranges, range.1 ≤ range.2) :
    Ascending 0 (ofRanges ranges).ranges := by
  have hsorted := pairwise_mergeSort_starts ranges
  have hperm := List.mergeSort_perm ranges fun a b => a.1 ≤ b.1
  rw [ofRanges]
  cases hranges : ranges.mergeSort fun a b => a.1 ≤ b.1 with
  | nil => trivial
  | cons range rest =>
    rw [hranges] at hsorted hperm
    exact (ascending_go hsorted fun other hother => hfull other (hperm.mem_iff.mp hother)).mono
      (Nat.zero_le _)

/-- There is no gap before the code point from which gaps are looked for. -/
theorem not_mem_gaps (h : Ascending low ranges) (hlt : code < low) :
    mem code (gaps low ranges) = false := by
  induction ranges generalizing low with
  | nil =>
    rw [gaps]
    split
    · rw [mem, if_pos hlt]
    · rfl
  | cons range rest ih =>
    obtain ⟨hle, hrange, hrest⟩ := h
    rw [gaps]
    split
    · rw [mem, if_pos hlt]
    · exact ih hrest (by omega)

/-- The gaps between ascending ranges are what they leave out. -/
theorem mem_gaps (h : Ascending low ranges) (hlow : low ≤ code) (hhigh : code ≤ maxCode) :
    mem code (gaps low ranges) = !mem code ranges := by
  induction ranges generalizing low with
  | nil =>
    have hfrom : ¬ code < low := Nat.not_lt.mpr hlow
    rw [gaps, if_pos (Nat.le_trans hlow hhigh)]
    simp [mem, hfrom, hhigh]
  | cons range rest ih =>
    obtain ⟨hle, hrange, hrest⟩ := h
    have hfirst : mem code (gaps low (range :: rest))
        = (decide (code < range.1) || mem code (gaps (range.2 + 1) rest)) := by
      rw [gaps]
      split
      · rw [mem, if_neg (Nat.not_lt.mpr hlow)]
        congr 1
        rw [decide_eq_decide]
        omega
      · have hnot : ¬ code < range.1 := by omega
        simp [hnot]
    rw [hfirst, mem]
    rcases Nat.lt_or_ge code range.1 with hbefore | hfrom
    · simp [hbefore]
    · rw [if_neg (Nat.not_lt.mpr hfrom), decide_eq_false (Nat.not_lt.mpr hfrom), Bool.false_or]
      rcases Nat.lt_or_ge range.2 code with hafter | hwithin
      · rw [ih hrest hafter, decide_eq_false (Nat.not_le.mpr hafter), Bool.false_or]
      · rw [not_mem_gaps hrest (by omega), decide_eq_true hwithin]
        rfl

/-- **The complement of an ascending set** contains what the set does not. -/
theorem contains_compl (h : Ascending 0 set.ranges) : set.compl.contains c = !set.contains c := by
  have hvalid : c.toNat < 0xD800 ∨ 0xDFFF < c.toNat ∧ c.toNat < 0x110000 := c.valid
  exact mem_gaps h (Nat.zero_le _) (by rw [maxCode]; omega)

end CharSet

/-! ## Classes -/

section Classes

open Rowwise.Text (inRanges inRanges_iff inRanges_append)

variable {c : Char}

/-- The class `\w` has the word characters. -/
theorem contains_word : (PerlClass.word.set true).contains c = Text.isWord c := by
  have hascii : ∀ code < 0x80, isNameChar (Char.ofNat code)
      = inRanges [(0x30, 0x39), (0x41, 0x5A), (0x5F, 0x5F), (0x61, 0x7A)] code := by
    decide +kernel
  have hlow : ∀ range ∈ [(0x30, 0x39), (0x41, 0x5A), (0x5F, 0x5F), (0x61, 0x7A)],
      range.2 < 0x80 := by
    decide
  have hhigh : ∀ range ∈ Text.wordRanges, 0x80 ≤ range.1 := by
    decide +kernel
  rw [Bool.eq_iff_iff, PerlClass.set, CharSet.contains_ofRanges, if_pos rfl, inRanges_append,
    Text.isWord]
  split
  · next hcode =>
    have hnone : inRanges Text.wordRanges c.toNat = false := by
      rw [Bool.eq_false_iff]
      intro hin
      exact absurd (CharSet.le_of_inRanges hhigh hin) (Nat.not_le.mpr hcode)
    rw [hnone, Bool.or_false, ← hascii c.toNat hcode, Char.ofNat_toNat]
  · next hcode =>
    have hnone : inRanges [(0x30, 0x39), (0x41, 0x5A), (0x5F, 0x5F), (0x61, 0x7A)] c.toNat
        = false := by
      rw [Bool.eq_false_iff]
      intro hin
      obtain ⟨range, hrange, -, hle⟩ := inRanges_iff.mp hin
      exact hcode (Nat.lt_of_le_of_lt hle (hlow range hrange))
    rw [hnone, Bool.false_or]

/-- The class `\S` has what is no white space. -/
theorem contains_notSpace : (PerlClass.space.set true).compl.contains c = !Text.isSpace c := by
  have hspace : (PerlClass.space.set true).contains c ↔ Text.isSpace c := by
    rw [PerlClass.set, CharSet.contains_ofRanges]
    simp [inRanges, Text.isSpace]
    omega
  have hascending : CharSet.Ascending 0 (PerlClass.space.set true).ranges :=
    CharSet.ascending_ofRanges (by decide)
  rw [CharSet.contains_compl hascending, Bool.eq_iff_iff.mpr hspace]

end Classes

end Regex

end Rowwise
