import Rowwise.Text.Case
import Rowwise.Text.Space
import Rowwise.Text.WordTable

/-!
# Words

Word characters, decimal digits, and title case: in every run of characters that are no white
space, the part from the first word character on is capitalised.
-/

namespace Rowwise.Text

/-- A letter, mark, decimal digit, connector or joiner. -/
def isWord (c : Char) : Bool :=
  if c.toNat < 0x80 then isNameChar c else inRanges wordRanges c.toNat

/-- A decimal digit of any script. -/
def isDigit (c : Char) : Bool :=
  if c.toNat < 0x80 then c.isDigit else inRanges digitRanges c.toNat

/-- The first character in upper case, the rest in lower case as a text of its own. -/
def capitalize : Text → Text
  | [] => []
  | c :: rest => upperChar c ++ lower rest

/-- Title case: a word starts at a word character and extends to the next white space; it is
capitalised and everything outside words is kept. -/
def title (text : Text) : Text :=
  match text with
  | [] => []
  | c :: rest =>
    if isWord c then
      capitalize (c :: rest.takeWhile (!isSpace ·)) ++ title (rest.dropWhile (!isSpace ·))
    else c :: title rest
termination_by text.length
decreasing_by
  · exact Nat.lt_succ_of_le (List.dropWhile_sublist _).length_le
  · exact Nat.lt_succ_self _

end Rowwise.Text
