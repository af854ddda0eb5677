import Rowwise.Regex.CategoryTable
import Rowwise.Regex.CharSet
import Rowwise.Regex.PropertyTable
import Rowwise.Regex.ScriptTable

/-!
# Unicode properties by name

`\p{…}` names a general category, a script or a binary property, or gives the value of a property
of several values. Names are compared without regard to case, spaces, hyphens and underscores.
-/

namespace Rowwise.Regex.Property

/-- A name as it is compared: ASCII, in lower case, without the marks that do not count and
without a leading `is`. -/
def normalize (name : Text) : Text :=
  let lowered := name.map Char.toLower
  let (stripped, body) := match lowered with
    | 'i' :: 's' :: rest => (true, rest)
    | _ => (false, lowered)
  let kept := body.filter fun c => c.toNat < 0x80 && c ≠ ' ' && c ≠ '_' && c ≠ '-'
  if stripped && kept == ['c'] then ['i', 's', 'c'] else kept

/-- The set of a key in a packed table; keys without an entry have no characters. -/
def entry (table : List (String × String)) (key : String) : CharSet :=
  match table.lookup key with
  | some packed => CharSet.unpack packed
  | none => .empty

/-- The set of some keys in a packed table. -/
def entries (table : List (String × String)) (keys : List String) : CharSet :=
  keys.foldl (fun set key => set.union (entry table key)) .empty

/-- The code points that are in no general category, surrogates apart. -/
def unassigned : CharSet :=
  ((entries categoryRanges (categoryRanges.map (·.1))).union ⟨[(0xD800, 0xDFFF)]⟩).compl

/-- The set of a general category or of one of the names for large sets. -/
def category? (name : String) : Option CharSet :=
  if name = "any" then some .all
  else if name = "ascii" then some ⟨[(0, 0x7F)]⟩
  else if name = "assigned" then some unassigned.compl
  else
    (categoryNames.lookup name).map fun keys =>
      let named := entries categoryRanges keys
      if "cn" ∈ keys then named.union unassigned else named

/-- The set of a script. -/
def script? (name : String) : Option CharSet :=
  (scriptNames.lookup name).map (entry scriptRanges)

/-- The set of the characters used with a script. -/
def scriptExtension? (name : String) : Option CharSet :=
  (scriptNames.lookup name).map fun key =>
    ((entry scriptRanges key).union (entry scriptExtraRanges key)).diff
      (entry scriptSharedRanges key)

/-- The set of a binary property. -/
def binary? (name : String) : Option CharSet :=
  (propertyNames.lookup name).map (entry propertyRanges)

/-- Names of binary properties that are read as general categories. -/
def categoryFirst : List String := ["cf", "sc", "lc"]

/-- The set that a name alone stands for. -/
def named? (name : Text) : Option CharSet :=
  let name := String.ofList (normalize name)
  let property := if name ∈ categoryFirst then none else binary? name
  property <|> category? name <|> script? name

/-- The set of the characters for which a property has a value. -/
def valued? (name value : Text) : Option CharSet :=
  let name := String.ofList (normalize name)
  let value := String.ofList (normalize value)
  if name ∈ ["gc", "generalcategory"] then category? value
  else if name ∈ ["sc", "script"] then script? value
  else if name ∈ ["scx", "scriptextensions"] then scriptExtension? value
  else none

end Rowwise.Regex.Property
