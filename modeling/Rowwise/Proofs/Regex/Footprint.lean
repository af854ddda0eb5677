import Mathlib.Algebra.BigOperators.Ring.List
import Mathlib.Algebra.Order.BigOperators.Group.List
import Mathlib.Algebra.Order.Ring.Nat
import Mathlib.Data.List.Chain
import Mathlib.Data.List.SplitBy
import Rowwise.Proofs.Machine.Cursor
import Rowwise.Proofs.Regex.Sets
import Rowwise.Regex.Footprint

/-!
# Regex — Footprint

The automaton for a set of characters is no larger than a fixed number of bytes for each range of the
set and for each row of bytes that encodes some of it (`chars_le`). Forwards, the states on one level
share out the rows, whichever of them are the same; backwards, a row has no more starts than bytes. So
an expression is seen to keep to the limit without its states being built.
-/

namespace Rowwise.Regex.Footprint

variable {rows : List ByteRanges} {row : ByteRanges} {set : CharSet}

theorem eraseDups_sublist {α : Type} [BEq α] [LawfulBEq α] :
    (items : List α) → items.eraseDups.Sublist items
  | [] => .slnil
  | item :: rest => by
    rw [List.eraseDups_cons]
    exact ((eraseDups_sublist _).trans List.filter_sublist).cons_cons item
termination_by items => items.length
decreasing_by exact Nat.lt_succ_of_le (List.length_filter_le _ _)

/-! ## Forwards -/

/-- The groups share out the rows. -/
theorem sum_length_groups (rows : List ByteRanges) :
    ((groups rows).map List.length).sum = rows.length := by
  have hflatten := congrArg List.length (List.flatten_splitBy (fun a b => a.head? == b.head?) rows)
  rw [List.length_flatten] at hflatten
  simpa [groups, Function.comp_def] using hflatten

theorem ne_nil_of_mem_groups {group : List ByteRanges} (h : group ∈ groups rows) : group ≠ [] := by
  obtain ⟨part, hpart, rfl⟩ := List.mem_map.mp h
  simpa using List.ne_nil_of_mem_splitBy hpart

theorem length_groups_le (rows : List ByteRanges) : (groups rows).length ≤ rows.length := by
  have hone : ∀ n ∈ (groups rows).map List.length, 1 ≤ n := fun n hn => by
    obtain ⟨group, hgroup, rfl⟩ := List.mem_map.mp hn
    exact List.length_pos_of_ne_nil (ne_nil_of_mem_groups hgroup)
  have hcount := List.length_le_sum_of_one_le _ hone
  rwa [List.length_map, sum_length_groups] at hcount

/-- The bytes of a state and its entries. -/
def stateSize (rows : List ByteRanges) : Nat :=
  state + entry * (groups rows).length

theorem stateSize_le (h : rows ≠ []) : stateSize rows ≤ (state + entry) * rows.length := by
  have hpos := List.length_pos_of_ne_nil h
  have hgroups := length_groups_le rows
  unfold stateSize state entry
  omega

/-- On every level the states share out the rows. -/
theorem sum_reachable_le (depth : Nat) (h : rows ≠ []) :
    ((reachable depth rows).map stateSize).sum ≤ depth * ((state + entry) * rows.length) := by
  induction depth generalizing rows with
  | zero => simp [reachable]
  | succ depth ih =>
    rw [reachable]
    split
    · exact Nat.zero_le _
    · have hbehind : (((groups rows).flatMap (reachable depth)).map stateSize).sum
          ≤ depth * ((state + entry) * rows.length) :=
        calc (((groups rows).flatMap (reachable depth)).map stateSize).sum
            = ((groups rows).map fun group => ((reachable depth group).map stateSize).sum).sum := by
              rw [List.map_flatMap, List.flatMap_def, List.sum_flatten, List.map_map]
              rfl
          _ ≤ ((groups rows).map fun group => depth * (state + entry) * group.length).sum :=
              List.sum_le_sum fun group hgroup => by
                rw [Nat.mul_assoc]
                exact ih (ne_nil_of_mem_groups hgroup)
          _ = depth * ((state + entry) * rows.length) := by
              rw [List.sum_map_mul_left, sum_length_groups, Nat.mul_assoc]
      rw [List.map_cons, List.sum_cons, Nat.succ_mul, Nat.add_comm]
      exact Nat.add_le_add hbehind (stateSize_le h)

theorem foldl_stateSize (items : List (List ByteRanges)) (size : Nat) :
    items.foldl (fun size rows => size + state + entry * (groups rows).length) size
      = size + (items.map stateSize).sum := by
  induction items generalizing size with
  | nil => rfl
  | cons rows items ih =>
    rw [List.foldl_cons, ih, List.map_cons, List.sum_cons, stateSize]
    omega

theorem forwardClass_le (rows : List ByteRanges) :
    forwardClass rows ≤ 2 * state + 4 * ((state + entry) * rows.length) := by
  rw [forwardClass, foldl_stateSize, Nat.two_mul, Nat.add_assoc]
  refine Nat.add_le_add_left ?_ _
  rcases eq_or_ne rows [] with rfl | hne
  · decide
  · have hdistinct := ((eraseDups_sublist (reachable 4 rows)).map stateSize).sum_le_sum
      fun _ _ => Nat.zero_le _
    exact (hdistinct.trans (sum_reachable_le 4 hne)).trans (Nat.le_add_left _ _)

/-! ## Backwards -/

theorem length_zipCodes_le (low high : Nat) : (zipCodes low high).length ≤ 4 := by
  rw [zipCodes, List.length_zip, List.length_map, Machine.length_encodeChar]
  exact (Nat.min_le_left _ _).trans (Char.utf8Size_le_four _)

theorem length_le_of_mem_byteRanges {fuel low high : Nat} (h : row ∈ byteRanges fuel low high) :
    row.length ≤ 4 := by
  induction fuel generalizing low high with
  | zero => cases h
  | succ fuel ih =>
    rw [byteRanges] at h
    split at h
    · rcases List.mem_append.mp h with h | h
      · exact ih h
      · exact ih h
    · rw [List.mem_singleton.mp h]
      exact length_zipCodes_le low high

theorem length_le_of_mem_encodings (h : row ∈ encodings set) : row.length ≤ 4 := by
  obtain ⟨range, -, hrow⟩ := List.mem_flatMap.mp h
  exact length_le_of_mem_byteRanges hrow

theorem backwardClass_le (h : ∀ row ∈ rows, row.length ≤ 4) :
    backwardClass rows ≤ 2 * state + (branch + 4 * state) * rows.length := by
  have hstarts : (rows.flatMap fun row => (List.range row.length).map fun n =>
      row.take (n + 1)).length ≤ 4 * rows.length := by
    rw [List.length_flatMap]
    calc (rows.map fun row => ((List.range row.length).map fun n => row.take (n + 1)).length).sum
        ≤ (rows.map fun _ => 4 * 1).sum := List.sum_le_sum fun row hrow => by simpa using h row hrow
      _ = 4 * rows.length := by rw [List.sum_map_mul_left, List.map_const', List.sum_replicate_nat,
          Nat.mul_one]
  have hdistinct := (eraseDups_sublist (rows.flatMap fun row => (List.range row.length).map fun n =>
      row.take (n + 1))).length_le
  simp only [backwardClass, state, branch]
  omega

/-- **The automaton for a set is linear in the number of its ranges and their encodings.** -/
theorem chars_le (backward : Bool) (set : CharSet) :
    chars backward set ≤ 4 * state + entry * set.ranges.length
      + 4 * ((state + entry) * (encodings set).length) := by
  have hlarge : chars.large backward set ≤ 2 * state
      + 4 * ((state + entry) * (encodings set).length) := by
    have hforward := forwardClass_le (encodings set)
    have hbackward : backwardClass (encodings set) ≤ _ :=
      backwardClass_le fun _ => length_le_of_mem_encodings
    unfold chars.large
    simp only [state, entry, branch] at *
    split <;> omega
  have hsize (low : Nat) : (Char.ofNat low).utf8Size ≤ 4 := Char.utf8Size_le_four _
  unfold chars
  simp only [state, entry] at *
  split
  · omega
  · next low high hranges =>
    have := hsize low
    rw [hranges]
    split
    · omega
    · split <;> simp <;> omega
  · split <;> omega

/-- A set of few ranges with few encodings. -/
structure Small (set : CharSet) : Prop where
  ranges : set.ranges.length ≤ 1000
  encodings : (encodings set).length ≤ 1000

theorem Small.chars_le (h : Small set) (backward : Bool) : chars backward set ≤ 1000000 := by
  obtain ⟨hranges, hencodings⟩ := h
  have hsize := Footprint.chars_le backward set
  simp only [state, entry] at hsize
  omega

/-! ## Encodings -/

/-- The code points that no character has. -/
def surrogates : CharSet :=
  ⟨[(0xD800, 0xDFFF)]⟩

/-- What a set leaves out, and what no character has, in ascending order. -/
def leftOut (set : CharSet) : List (Nat × Nat) :=
  set.compl.ranges.takeWhile (·.1 < 0xD800)
    ++ (0xD800, 0xDFFF) :: set.compl.ranges.dropWhile (·.1 < 0xD800)

/-- The ranges of a set without what no character has, found without sorting. -/
theorem encodings_eq (h : (leftOut set).IsChain fun a b => a.1 < b.1) :
    encodings set = (CharSet.gaps 0 (CharSet.merge (leftOut set))).flatMap fun range =>
      byteRanges 16 range.1 range.2 := by
  have hcompl : surrogates.compl.compl = surrogates := by
    decide
  have hperm : (leftOut set).Perm (set.compl.ranges ++ surrogates.ranges) := by
    refine List.perm_middle.trans ?_
    rw [List.takeWhile_append_dropWhile]
    exact (List.perm_append_singleton _ _).symm
  have hdiff : set.diff surrogates = (⟨CharSet.merge (leftOut set)⟩ : CharSet).compl := by
    rw [CharSet.diff, CharSet.inter, CharSet.union, hcompl,
      CharSet.ofRanges_of_perm hperm (List.isChain_iff_pairwise.mp h)]
  rw [encodings]
  exact congrArg (fun set : CharSet => set.ranges.flatMap fun range => byteRanges 16 range.1 range.2)
    hdiff

end Rowwise.Regex.Footprint
