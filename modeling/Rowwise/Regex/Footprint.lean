import Rowwise.Regex.Meaning
import Rowwise.Text.Utf8

/-!
# The size of an automaton

An expression is refused when an automaton over UTF-8 bytes for it, read forwards or backwards,
would take more than ten mebibytes: 32 bytes a state, 8 bytes an entry of a state that tells
several byte ranges apart, 4 bytes a branch of an alternative.
-/

namespace Rowwise.Regex.Footprint

/-- The greatest size of an automaton in bytes. -/
def limit : Nat := 10 * 1024 * 1024

/-- The bytes of a state. -/
def state : Nat := 32

/-- The bytes of an entry of a state that tells byte ranges apart. -/
def entry : Nat := 8

/-- The bytes of a branch of an alternative. -/
def branch : Nat := 4

/-! ### Characters as byte sequences -/

/-- A row of byte ranges: the encodings of some characters. -/
abbrev ByteRanges := List (Nat × Nat)

/-- The bytes of two characters whose encodings are of one length, as ranges. -/
def zipCodes (low high : Nat) : ByteRanges :=
  let bytes (code : Nat) := (Utf8.encodeChar (Char.ofNat code)).map UInt8.toNat
  (bytes low).zip (bytes high)

/-- The greatest codes with one, two and three bytes. -/
def widths : List Nat := [0x7F, 0x7FF, 0xFFFF]

/-- Where a range of codes is cut so that each part has encodings in full byte ranges. -/
def cut? (low high : Nat) : Option (Nat × Nat) :=
  match widths.find? fun last => low ≤ last && last < high with
  | some last => some (last, last + 1)
  | none =>
    if high ≤ 0x7F then none
    else
      [6, 12, 18].findSome? fun bits =>
        let unit := Number.powerOfTwo bits
        if low / unit == high / unit then none
        else if low % unit ≠ 0 then
          let last := low / unit * unit + (unit - 1)
          some (last, last + 1)
        else if high % unit ≠ unit - 1 then some (high / unit * unit - 1, high / unit * unit)
        else none

/-- The byte ranges for a range of codes. `fuel` bounds how often it is cut. -/
def byteRanges : (fuel : Nat) → (low high : Nat) → List ByteRanges
  | 0, _, _ => []
  | fuel + 1, low, high =>
    match cut? low high with
    | some (last, next) => byteRanges fuel low last ++ byteRanges fuel next high
    | none => [zipCodes low high]

/-- The byte ranges for the characters of a set. -/
def encodings (set : CharSet) : List ByteRanges :=
  (set.diff ⟨[(0xD800, 0xDFFF)]⟩).ranges.flatMap fun range => byteRanges 16 range.1 range.2

/-! ### Classes -/

/-- The rows that share their first range, as groups of what follows it. -/
def groups (rows : List ByteRanges) : List (List ByteRanges) :=
  (rows.splitBy fun a b => a.head? == b.head?).map fun group => group.map (·.drop 1)

/-- The states behind one state, to a depth of four bytes: each is given by the rows it accepts. -/
def reachable : (depth : Nat) → List ByteRanges → List (List ByteRanges)
  | 0, _ => []
  | depth + 1, rows =>
    if rows == [[]] then []
    else rows :: ((groups rows).flatMap (reachable depth))

/-- The size of the smallest automaton for the bytes of a class. -/
def forwardClass (rows : List ByteRanges) : Nat :=
  (reachable 4 rows).eraseDups.foldl (fun size rows => size + state + entry * (groups rows).length)
    state

/-- The size of an automaton for the bytes of a class in reverse that shares last bytes only. -/
def backwardClass (rows : List ByteRanges) : Nat :=
  let starts := rows.flatMap fun row => (List.range row.length).map fun n => row.take (n + 1)
  2 * state + branch * rows.length + state * starts.eraseDups.length

/-- The size of the automaton for a set of characters. -/
def chars (backward : Bool) (set : CharSet) : Nat :=
  match set.ranges with
  | [] => state
  | [(low, high)] =>
    if low = high then state * (Char.ofNat low).utf8Size
    else if high < 0x80 then 2 * state + entry
    else large
  | ranges => if set.isAscii then 2 * state + entry * ranges.length else large
where
  large := if backward then backwardClass (encodings set) else forwardClass (encodings set)

/-! ### Expressions -/

mutual

/-- The size of the automaton for an expression. -/
def node (backward : Bool) : Node → Nat
  | .empty | .look _ => state
  | .chars set => chars backward set
  | .capture _ body => node backward body + if backward then 0 else 2 * state
  | .repetition least most _ body =>
    let size := node backward body
    let choice := state + 2 * branch
    match most with
    | some most =>
      least * size + (if least = 0 then state else 0) +
        if least = most then 0 else (most - least) * (size + choice) + state
    | none =>
      if least = 0 then size + choice + if body.minLength = 0 then choice + state else 0
      else least * size + choice
  | .concat items => if items.isEmpty then state else nodes backward items
  | .alternation items => nodes backward items + 2 * state + branch * items.length

/-- The size of the automata for several expressions. -/
def nodes (backward : Bool) : List Node → Nat
  | [] => 0
  | item :: rest => node backward item + nodes backward rest

end

/-- Whether the automata for an expression keep to the limit. -/
def fits (body : Node) : Bool :=
  node false body ≤ limit && node true body ≤ limit

end Rowwise.Regex.Footprint
