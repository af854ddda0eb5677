import Rowwise.Text.Hex

/-!
# Packed tables

Tables of code points are kept as texts of hexadecimal words between white space: `A` is one code
point, `A-B` a run of them, and `A-B/2` every second one of a run.
-/

namespace Rowwise.Packed

/-- The ranges that one word stands for. -/
def ranges (word : Text) : List (Nat × Nat) :=
  let first := Hex.number (word.takeWhile Char.isAlphanum)
  match word.dropWhile Char.isAlphanum with
  | '-' :: rest =>
    let last := Hex.number (rest.takeWhile Char.isAlphanum)
    match rest.dropWhile Char.isAlphanum with
    | [] => [(first, last)]
    | _ => (List.range ((last - first) / 2 + 1)).map fun i => (first + 2 * i, first + 2 * i)
  | _ => [(first, first)]

/-- The words of a table. -/
def words (table : String) : List Text :=
  (table.toList.splitOnP fun c => c == ' ' || c == '\n').filter (· ≠ [])

/-- The ranges that a table lists, in its order. -/
def unpack (table : String) : List (Nat × Nat) :=
  (words table).flatMap ranges

/-- The code points that a table lists, in its order. -/
def codes (table : String) : List Nat :=
  (unpack table).flatMap fun range => (List.range (range.2 + 1 - range.1)).map (range.1 + ·)

end Rowwise.Packed
