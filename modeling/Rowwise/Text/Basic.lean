/-!
# Text

Text is the list of its characters, that is of Unicode scalar values. Positions and lengths count
characters; where bytes are meant, a name says so.
-/

namespace Rowwise

/-- Text as the list of its characters. -/
abbrev Text := List Char

namespace Text

/-- The number of bytes of the UTF-8 form. -/
def utf8Size (text : Text) : Nat :=
  text.foldl (fun size c => size + c.utf8Size) 0

theorem foldl_utf8Size (size : Nat) (text : Text) :
    text.foldl (fun size c => size + c.utf8Size) size = size + utf8Size text := by
  induction text generalizing size with
  | nil => rfl
  | cons c text ih =>
    have step := ih (0 + c.utf8Size)
    rw [List.foldl_cons, ih]
    show _ = size + List.foldl (fun size c => size + c.utf8Size) (0 + c.utf8Size) text
    omega

@[simp] theorem utf8Size_nil : utf8Size [] = 0 := rfl

@[simp] theorem utf8Size_cons (c : Char) (text : Text) :
    utf8Size (c :: text) = c.utf8Size + utf8Size text := by
  rw [utf8Size, List.foldl_cons, foldl_utf8Size, Nat.zero_add]

@[simp] theorem utf8Size_append (a b : Text) : utf8Size (a ++ b) = utf8Size a + utf8Size b := by
  induction a with
  | nil => simp
  | cons c a ih => simp [ih, Nat.add_assoc]

/-- The texts with `separator` between neighbours. -/
def join (separator : Text) : List Text → Text
  | [] => []
  | [text] => text
  | text :: more => text ++ separator ++ join separator more

/-- Whether a code point lies in one of the inclusive ranges. -/
def inRanges (ranges : List (Nat × Nat)) (code : Nat) : Bool :=
  ranges.any fun range => range.1 ≤ code && code ≤ range.2

end Text

/-- An ASCII letter, digit or underscore: what names are made of. -/
def isNameChar (c : Char) : Bool :=
  c.isAlphanum || c == '_'

end Rowwise
