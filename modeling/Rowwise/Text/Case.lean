import Rowwise.Text.CaseTable
import Rowwise.Text.CasedTable

/-!
# Upper and lower case

The full, locale-free Unicode case mappings. They work character by character, except that a
capital sigma at the end of a word becomes the final form `ς`.
-/

namespace Rowwise.Text

/-- The mapping of one code point by a table of runs and a table of expansions. -/
def mapCode (runs : List CaseRun) (expansions : List (Nat × List Nat)) (code : Nat) : List Nat :=
  match runs.find? (·.covers code) with
  | some run => [run.apply code]
  | none => (expansions.lookup code).getD [code]

/-- The lower-case form of one character, without regard to its neighbours. -/
def lowerChar (c : Char) : Text :=
  if c.toNat < 0x80 then [c.toLower]
  else (mapCode lowerRuns lowerExpansions c.toNat).map Char.ofNat

/-- The upper-case form of one character. -/
def upperChar (c : Char) : Text :=
  if c.toNat < 0x80 then [c.toUpper]
  else (mapCode upperRuns upperExpansions c.toNat).map Char.ofNat

/-- Whether the character has case. -/
def isCased (c : Char) : Bool :=
  if c.toNat < 0x80 then c.isAlpha else inRanges casedRanges c.toNat

/-- Whether the character is passed over when the end of a word is looked for. -/
def isCaseIgnorable (c : Char) : Bool :=
  inRanges caseIgnorableRanges c.toNat

/-- Whether, case-ignorable characters passed over, a cased character comes first. -/
def startsCased (text : Text) : Bool :=
  match text.dropWhile isCaseIgnorable with
  | [] => false
  | c :: _ => isCased c

/-- The lower-case form of `text` when what stands before it ends in a cased character
(`afterCased`, case-ignorable characters passed over). -/
def lowerFrom (afterCased : Bool) : Text → Text
  | [] => []
  | c :: rest =>
    let mapped :=
      if c = 'Σ' then (if afterCased && !startsCased rest then ['ς'] else ['σ']) else lowerChar c
    mapped ++ lowerFrom (if isCaseIgnorable c then afterCased else isCased c) rest

/-- The lower-case form of a text. -/
def lower (text : Text) : Text :=
  lowerFrom false text

/-- The upper-case form of a text. -/
def upper (text : Text) : Text :=
  text.flatMap upperChar

end Rowwise.Text
