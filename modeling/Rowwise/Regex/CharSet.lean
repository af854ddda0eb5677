import Rowwise.Regex.FoldTable
import Rowwise.Text.Packed
import Rowwise.Text.Word

/-!
# Sets of characters

A set of code points as ascending ranges with gaps between them. Surrogates may lie in a set; no
character is one.
-/

namespace Rowwise.Regex

/-- A set of code points. -/
structure CharSet where
  ranges : List (Nat × Nat)
  deriving DecidableEq, Inhabited

namespace CharSet

/-- The greatest code point. -/
def maxCode : Nat := 0x10FFFF

/-- Joins ascending ranges that overlap or touch. -/
def merge : List (Nat × Nat) → List (Nat × Nat)
  | [] => []
  | range :: rest =>
    let rec go (low high : Nat) : List (Nat × Nat) → List (Nat × Nat)
      | [] => [(low, high)]
      | next :: rest =>
        if next.1 ≤ high + 1 then go low (max high next.2) rest
        else (low, high) :: go next.1 next.2 rest
    go range.1 range.2 rest

/-- The set of the code points in some ranges, in any order. -/
def ofRanges (ranges : List (Nat × Nat)) : CharSet :=
  ⟨merge (ranges.mergeSort fun a b => a.1 ≤ b.1)⟩

/-- No character. -/
def empty : CharSet := ⟨[]⟩

/-- Every character. -/
def all : CharSet := ⟨[(0, maxCode)]⟩

/-- One character. -/
def single (c : Char) : CharSet := ⟨[(c.toNat, c.toNat)]⟩

/-- Whether a code point is in one of the ascending ranges. -/
def mem (code : Nat) : List (Nat × Nat) → Bool
  | [] => false
  | range :: rest => if code < range.1 then false else code ≤ range.2 || mem code rest

/-- Whether a character is in the set. -/
def contains (set : CharSet) (c : Char) : Bool :=
  mem c.toNat set.ranges

/-- The characters of either set. -/
def union (a b : CharSet) : CharSet :=
  ofRanges (a.ranges ++ b.ranges)

/-- The gaps between ascending ranges from `low` on. -/
def gaps (low : Nat) : List (Nat × Nat) → List (Nat × Nat)
  | [] => if low ≤ maxCode then [(low, maxCode)] else []
  | range :: rest =>
    if low < range.1 then (low, range.1 - 1) :: gaps (range.2 + 1) rest
    else gaps (range.2 + 1) rest

/-- The characters outside the set. -/
def compl (set : CharSet) : CharSet :=
  ⟨gaps 0 set.ranges⟩

/-- The characters of both sets. -/
def inter (a b : CharSet) : CharSet :=
  (a.compl.union b.compl).compl

/-- The characters of the first set that are not in the second. -/
def diff (a b : CharSet) : CharSet :=
  a.inter b.compl

/-- The characters of exactly one of the sets. -/
def symmDiff (a b : CharSet) : CharSet :=
  (a.diff b).union (b.diff a)

/-- Whether all characters of the set are ASCII. -/
def isAscii (set : CharSet) : Bool :=
  set.ranges.all (·.2 < 0x80)

/-! ### Case -/

/-- The pairs of a code point and what it folds to. -/
def foldPairs : List (Nat × Nat) :=
  foldRuns.flatMap fun run =>
    (List.range ((run.last - run.first) / run.step + 1)).map fun i =>
      let code := run.first + i * run.step
      (code, run.apply code)

/-- The set with the partner of every code point that is half of a folding pair. -/
def addPartners (set : CharSet) : CharSet :=
  let found := foldPairs.filter fun pair => mem pair.1 set.ranges || mem pair.2 set.ranges
  ofRanges (set.ranges ++ found.flatMap fun pair => [(pair.1, pair.1), (pair.2, pair.2)])

/-- The set closed under simple case folding: all that fold to what a member folds to. Members of
one class meet in their folded form, so two rounds of partners reach them all. -/
def foldCase (set : CharSet) : CharSet :=
  set.addPartners.addPartners

/-- The set closed under the case of ASCII letters. -/
def foldAscii (set : CharSet) : CharSet :=
  let letters := (List.range 26).filter fun i =>
    mem (0x41 + i) set.ranges || mem (0x61 + i) set.ranges
  ofRanges (set.ranges ++ letters.flatMap fun i => [(0x41 + i, 0x41 + i), (0x61 + i, 0x61 + i)])

/-! ### Tables -/

/-- The set that a packed table lists. -/
def unpack (table : String) : CharSet :=
  ofRanges (Packed.unpack table)

end CharSet

end Rowwise.Regex
