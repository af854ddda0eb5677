import Rowwise.Text.Basic

/-!
# Finding one text in another

Positions count characters. The empty text occurs at every position, the end included.
-/

namespace Rowwise.Text

/-- The first position at which `needle` occurs. -/
def indexOf? (needle : Text) : Text → Option Nat
  | [] => if needle = [] then some 0 else none
  | c :: rest =>
    if needle.isPrefixOf (c :: rest) then some 0 else (indexOf? needle rest).map (· + 1)

/-- The last position at which `needle` occurs. -/
def lastIndexOf? (needle : Text) : Text → Option Nat
  | [] => if needle = [] then some 0 else none
  | c :: rest =>
    match lastIndexOf? needle rest with
    | some position => some (position + 1)
    | none => if needle.isPrefixOf (c :: rest) then some 0 else none

end Rowwise.Text
