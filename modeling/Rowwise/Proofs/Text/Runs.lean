import Mathlib.Data.List.SplitBy
import Mathlib.Data.List.TakeWhile
import Rowwise.Text.Basic

/-!
# Text — Runs

Runs of characters of a kind: where the run ends that a text starts with (`Stops`), and the parts of
a text that is cut wherever the kind changes (`blocks`).
-/

namespace Rowwise.Text

variable {kind : Char → Bool} {run rest text : Text}

/-- A run of characters of a kind stops before this text. -/
def Stops (kind : Char → Bool) (text : Text) : Prop :=
  ∀ c ∈ text.head?, ¬ kind c

@[simp] theorem stops_cons {c : Char} : Stops kind (c :: text) ↔ ¬ kind c := by
  simp [Stops]

theorem stops_dropWhile (kind : Char → Bool) (text : Text) : Stops kind (text.dropWhile kind) := by
  intro c hc
  have hhead := List.head?_dropWhile_not kind text
  rw [Option.mem_def.mp hc] at hhead
  exact Bool.eq_false_iff.mp hhead

theorem takeWhile_append_of_stops (within : ∀ c ∈ run, kind c) (stops : Stops kind rest) :
    (run ++ rest).takeWhile kind = run := by
  rw [List.takeWhile_append_of_pos within]
  cases rest with
  | nil => rw [List.takeWhile_nil, List.append_nil]
  | cons c more => rw [List.takeWhile_cons_of_neg (stops_cons.mp stops), List.append_nil]

theorem dropWhile_append_of_stops (within : ∀ c ∈ run, kind c) (stops : Stops kind rest) :
    (run ++ rest).dropWhile kind = rest := by
  rw [List.dropWhile_append_of_pos within]
  cases rest with
  | nil => rfl
  | cons c more => exact List.dropWhile_cons_of_neg (stops_cons.mp stops)

/-! ## Blocks -/

/-- The maximal parts of a text whose characters are all of a kind, or none is. -/
def blocks (kind : Char → Bool) (text : Text) : List Text :=
  text.splitBy fun c d => kind c == kind d

@[simp] theorem blocks_nil : blocks kind [] = [] := rfl

theorem kind_of_mem_block {c d : Char} (h : d ∈ c :: text.takeWhile (kind · == kind c)) :
    kind d = kind c := by
  rcases List.mem_cons.mp h with rfl | h
  · rfl
  · simpa using List.mem_takeWhile_imp h

/-- The first block goes as far as the kind does not change. -/
theorem blocks_cons (kind : Char → Bool) (c : Char) (text : Text) :
    blocks kind (c :: text) = (c :: text.takeWhile (kind · == kind c))
      :: blocks kind (text.dropWhile (kind · == kind c)) := by
  have hchain : (c :: text.takeWhile (kind · == kind c)).IsChain
      fun d e => (kind d == kind e) = true := by
    refine List.Pairwise.isChain (List.pairwise_of_forall_mem_list fun d hd e he => ?_)
    rw [kind_of_mem_block hd, kind_of_mem_block he, beq_self_eq_true]
  have happart : ∀ d ∈ (c :: text.takeWhile (kind · == kind c)).getLast?,
      ∀ e ∈ (text.dropWhile (kind · == kind c)).head?, (kind d == kind e) = false := by
    intro d hd e he
    rw [kind_of_mem_block (List.mem_of_getLast? hd), Bool.beq_comm]
    exact Bool.eq_false_iff.mpr (stops_dropWhile (kind · == kind c) text e he)
  have hsplit : c :: text = (c :: text.takeWhile (kind · == kind c))
      ++ text.dropWhile (kind · == kind c) := by
    rw [List.cons_append, List.takeWhile_append_dropWhile]
  conv_lhs => rw [blocks, hsplit]
  rw [List.splitBy_append happart, List.splitBy_of_isChain (List.cons_ne_nil _ _) hchain,
    List.singleton_append]
  rfl

end Rowwise.Text
