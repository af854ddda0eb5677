import Rowwise.Text.Basic

/-!
# White space

The Unicode property `White_Space`, and trimming by it.
-/

namespace Rowwise.Text

/-- The characters of the Unicode property `White_Space`. -/
def isSpace (c : Char) : Bool :=
  let code := c.toNat
  (0x9 ≤ code && code ≤ 0xD) || code == 0x20 || code == 0x85 || code == 0xA0 || code == 0x1680 ||
    (0x2000 ≤ code && code ≤ 0x200A) || code == 0x2028 || code == 0x2029 || code == 0x202F ||
    code == 0x205F || code == 0x3000

/-- The text from its first character that is no white space. -/
def trimLeft (text : Text) : Text :=
  text.dropWhile isSpace

/-- The text up to its last character that is no white space. -/
def trimRight (text : Text) : Text :=
  (trimLeft text.reverse).reverse

/-- The text without white space at either end. -/
def trim (text : Text) : Text :=
  trimRight (trimLeft text)

end Rowwise.Text
