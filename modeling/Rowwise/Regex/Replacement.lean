import Rowwise.Regex.Automaton

/-!
# Replacing matches

The matches of an expression in a text, and the templates by which they are replaced: `$n` and
`$name` stand for what a group matched, `${…}` for the group named or numbered between the
braces, `$$` for a dollar sign.
-/

namespace Rowwise

/-- A reference to a capture group. -/
inductive GroupRef
  | number (n : Nat)
  | name (name : Text)
  deriving DecidableEq

/-- One piece of a template. -/
inductive TemplatePiece
  | char (c : Char)
  | group (ref : GroupRef)
  deriving DecidableEq

namespace Template

/-- Group numbers are below this bound; larger ones are names. -/
def numberBound : Nat := 0x10000000000000000

/-- The group that a text refers to. A number may have a plus sign. -/
def refOf (text : Text) : GroupRef :=
  let digits := match text with
    | '+' :: rest => rest
    | _ => text
  let value := Number.readDigits 0 digits
  if digits ≠ [] ∧ digits.all Char.isDigit ∧ value < numberBound then .number value
  else .name text

/-- The group reference after a dollar sign, and the text after it. -/
def ref? (text : Text) : Option (GroupRef × Text) :=
  match text with
  | c :: rest =>
    if c = '\x7b' then
      match rest.dropWhile (· ≠ '\x7d') with
      | _ :: after => some (refOf (rest.takeWhile (· ≠ '\x7d')), after)
      | [] => none
    else
      match text.takeWhile isNameChar with
      | [] => none
      | name => some (refOf name, text.dropWhile isNameChar)
  | [] => none

theorem ref?_length {text : Text} {ref : GroupRef} {rest : Text}
    (h : ref? text = some (ref, rest)) :
    rest.length ≤ text.length := by
  unfold ref? at h
  split at h
  · rename_i c tail
    split at h
    · have short := (List.dropWhile_sublist (· ≠ '\x7d') (l := tail)).length_le
      split at h
      · rename_i heq
        simp only [Option.some.injEq, Prod.mk.injEq] at h
        rw [heq, h.2, List.length_cons] at short
        simp only [List.length_cons]
        omega
      · simp at h
    · have short := (List.dropWhile_sublist isNameChar (l := c :: tail)).length_le
      split at h
      · simp at h
      · simp only [Option.some.injEq, Prod.mk.injEq] at h
        rwa [h.2] at short
  · simp at h

/-- The pieces of a template. A dollar sign that starts no reference stands for itself. -/
def pieces (template : Text) : List TemplatePiece :=
  match template with
  | [] => []
  | '$' :: '$' :: rest => .char '$' :: pieces rest
  | c :: rest =>
    match h : if c = '$' then ref? rest else none with
    | some (ref, after) =>
      have : after.length ≤ rest.length := by
        split at h
        · exact ref?_length h
        · simp at h
      .group ref :: pieces after
    | none => .char c :: pieces rest
termination_by template.length

/-- Puts braces around the digits right after a dollar sign, so that a numbered reference ends
where its digits end. Doubled dollar signs are passed over. -/
def braceNumbers (template : Text) : Text :=
  match template with
  | [] => []
  | '$' :: '$' :: rest => '$' :: '$' :: braceNumbers rest
  | '$' :: rest =>
    have : (rest.dropWhile Char.isDigit).length ≤ rest.length :=
      (List.dropWhile_sublist _).length_le
    match rest.takeWhile Char.isDigit with
    | [] => '$' :: braceNumbers rest
    | digits =>
      '$' :: '\x7b' :: digits ++ '\x7d' :: braceNumbers (rest.dropWhile Char.isDigit)
  | c :: rest => c :: braceNumbers rest
termination_by template.length

end Template

/-- What a match of an expression holds: the text since the match before it, and what the groups
matched, group 0 being the whole match. -/
structure Match where
  before : Text
  groups : List (Option Text)

namespace Match

/-- What a group matched; nothing for a group that took no part or does not exist. -/
def group (m : Match) (names : List (Text × Nat)) : GroupRef → Text
  | .number n => ((m.groups[n]?).getD none).getD []
  | .name name =>
    match names.lookup name with
    | some n => ((m.groups[n]?).getD none).getD []
    | none => []

/-- What a template stands for at a match. -/
def expand (m : Match) (names : List (Text × Nat)) (template : List TemplatePiece) : Text :=
  template.flatMap fun
    | .char c => [c]
    | .group ref => m.group names ref

end Match

/-- A regular expression ready to match. -/
structure Regex where
  automaton : Regex.Automaton
  groups : Nat
  names : List (Text × Nat)

namespace Regex

/-- The expression that a text writes, unless it is malformed or too large. -/
def ofText? (text : Text) : Option Regex := do
  let parsed ← parse? text
  let (node, _) ← parsed.expr.meaning? .initial
  if Footprint.fits node then
    some ⟨.ofNode node parsed.groups, parsed.groups, parsed.names⟩
  else none

/-- The matches behind position `last`, and the text after the last of them. -/
def matchesAfter (groups : Nat) (input : Array Char) (last : Nat) :
    List Automaton.Slots → List Match × Text
  | [] => ([], (input.extract last input.size).toList)
  | slots :: rest =>
    let (start, stop) := (Automaton.extent slots 0).getD (last, last)
    let (others, tail) := matchesAfter groups input stop rest
    let found := (List.range (groups + 1)).map fun group =>
      (Automaton.extent slots group).map fun (start, stop) => (input.extract start stop).toList
    (⟨(input.extract last start).toList, found⟩ :: others, tail)

/-- The matches in a text from left to right, and the text after the last of them. -/
def findAll (regex : Regex) (text : Text) : List Match × Text :=
  let input := text.toArray
  matchesAfter regex.groups input 0 (regex.automaton.allMatches input)

/-- The text with every match replaced. -/
def replaceAll (regex : Regex) (text replacement : Text) : Text :=
  let template := Template.pieces (Template.braceNumbers replacement)
  let (found, tail) := regex.findAll text
  (found.flatMap fun m => m.before ++ m.expand regex.names template) ++ tail

end Regex

end Rowwise
