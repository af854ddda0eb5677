import Rowwise.Text.Case
import Rowwise.Text.Space

/-!
# Separators

The two variants of delimited text, their names, and the guess from a first line.
-/

namespace Rowwise

/-- What separates the cells of a row. Only comma-separated text knows quotes. -/
inductive Separator
  | comma
  | tab
  deriving DecidableEq, Repr

/-- A separator name that is not known, trimmed and in lower case. -/
structure UnknownSeparator where
  name : Text
  deriving DecidableEq

namespace UnknownSeparator

/-- The message for the user. -/
def message (e : UnknownSeparator) : String :=
  "unknown separator '" ++ String.ofList e.name ++ "' (expected comma or tab)"

end UnknownSeparator

namespace Separator

/-- The character between two cells. -/
def char : Separator → Char
  | comma => ','
  | tab => '\t'

/-- Whether `"` quotes. -/
def quotes : Separator → Bool
  | comma => true
  | tab => false

/-- The name by which a separator is written. -/
def name : Separator → String
  | comma => "comma"
  | tab => "tab"

/-- The separator that a stored document names, exactly. -/
def ofName? (name : String) : Option Separator :=
  if name ∈ ["comma", "csv", "comma-separated"] then some comma
  else if name ∈ ["tab", "tsv", "tab-separated"] then some tab
  else none

/-- The separator that a user names: in any case, with white space around it, and also by the
character itself. -/
def parse (text : Text) : Except UnknownSeparator Separator :=
  let name := Text.lower (Text.trim text)
  match ofName? (String.ofList name) with
  | some kind => .ok kind
  | none =>
    if name = [','] then .ok comma
    else if name = ['\\', 't'] then .ok tab
    else .error ⟨name⟩

/-- The text before the first line feed. -/
def firstLine (text : Text) : Text :=
  text.takeWhile (· ≠ '\n')

/-- The separator guessed from the first line: tab if it has strictly more tabs than commas. -/
def detect (text : Text) : Separator :=
  if (firstLine text).count '\t' > (firstLine text).count ',' then tab else comma

end Separator

end Rowwise
