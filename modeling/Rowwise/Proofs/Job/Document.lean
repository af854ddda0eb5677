import Rowwise.Job.Request
import Rowwise.Proofs.Json.Layout

/-!
# Job — Documents

A job request that was written as a document is read back (`ofDocument_pretty`).

Its fields are taken up one after the other (`Json.objectRest_fields`). Whatever came before, a
field that is there already is refused, and any other adds its own value to the draft; so the four
fields of a document, each of which stands once, fill an empty draft.
-/

namespace Rowwise.Job.Request

open Json (ok_bind)

/-- The fields of a request as they are written. -/
def entries (request : Request) : List (Text × Json) :=
  [("rawText".toList, .string request.rawText), ("pattern".toList, .string request.pattern),
    ("separatorKind".toList, .ofString request.separator.name),
    ("hasHeaderRow".toList, .bool request.hasHeader)]

theorem toJson_eq (request : Request) : request.toJson = .object request.entries := rfl

/-- A draft with one field as the request has it. -/
def fill (request : Request) (key : Text) (draft : Draft) : Draft :=
  if key = "rawText".toList then { draft with rawText := some request.rawText }
  else if key = "pattern".toList then { draft with pattern := some request.pattern }
  else if key = "separatorKind".toList then { draft with separator := some request.separator }
  else { draft with hasHeader := some request.hasHeader }

/-- What a field of a document adds to a draft. -/
def takeEntry (request : Request) (draft : Draft) (entry : Text × Json) :
    Except Json.ReadError Draft :=
  if recordReader.has entry.1 draft then .error .mismatch
  else .ok (request.fill entry.1 draft)

/-! ## Fields -/

theorem expectString_quoted (text rest : Text) :
    Json.expectString (' ' :: (Json.quoted text ++ rest)) = .ok (text, rest) := by
  rw [Json.quoted_append]
  exact Json.stringRest_escaped text rest

theorem ofName?_name (separator : Separator) : Separator.ofName? separator.name = some separator := by
  cases separator with
  | comma => rfl
  | tab => rfl

theorem expectName_quoted (depth : Nat) (separator : Separator) (rest : Text) :
    Json.expectName depth (fun name => Separator.ofName? (String.ofList name))
        (' ' :: (Json.quoted separator.name.toList ++ rest))
      = .ok (separator, rest) := by
  have hstring : Json.expectString ('"' :: (separator.name.toList.flatMap Json.escapeChar ++
      '"' :: rest)) = .ok (separator.name.toList, rest) :=
    Json.stringRest_escaped _ rest
  have hskip : ∀ text : Text, Json.skipSpace (' ' :: '"' :: text) = '"' :: text := fun _ => rfl
  rw [Json.expectName, Json.quoted_append, hskip]
  simp only [hstring, ok_bind, String.ofList_toList, ofName?_name]

theorem expectBool_layout (indent : Nat) (value : Bool) (rest : Text) :
    Json.expectBool (' ' :: (Json.layout indent (.bool value) ++ rest)) = .ok (value, rest) := by
  rw [Json.expectBool, Json.value_space, Json.value_layout (.bool value)]
  rfl

/-- **A field** is read back in any draft. -/
theorem field_entries {request : Request} {entry : Text × Json} (h : entry ∈ request.entries)
    (depth inner : Nat) (draft : Draft) (rest : Text) :
    recordReader.field depth entry.1 draft (' ' :: (Json.layout inner entry.2 ++ rest))
      = .ok (request.fill entry.1 draft, rest) := by
  simp only [entries, List.mem_cons, List.not_mem_nil, or_false] at h
  rcases h with rfl | rfl | rfl | rfl
  · exact congrArg (Except.map _) (expectString_quoted request.rawText rest)
  · exact congrArg (Except.map _) (expectString_quoted request.pattern rest)
  · exact congrArg (Except.map _) (expectName_quoted depth request.separator rest)
  · exact congrArg (Except.map _) (expectBool_layout inner request.hasHeader rest)

theorem mem_names {request : Request} {entry : Text × Json} (h : entry ∈ request.entries) :
    entry.1 ∈ recordReader.names :=
  List.mem_map_of_mem (f := Prod.fst) h

/-- An object is read as a request by a reader of fields that takes up those of a document. -/
theorem exists_read_object (depth : Nat) :
    ∃ field : Text → Draft → Json.Reader Draft,
      (∀ (request : Request) (inner : Nat),
        Json.TakesUp inner field request.takeEntry request.entries) ∧
      ∀ rest, recordReader.read .empty (fun draft => some draft.request) (depth + 1)
          ('\x7b' :: rest) = (do
        let (draft, rest) ← Json.objectRest true field .empty rest
        .ok (draft.request, rest)) := by
  refine ⟨fun key draft text =>
    if key ∈ recordReader.names then
      if recordReader.has key draft then .error .mismatch
      else do recordReader.field depth key draft (← Json.colon text)
    else do .ok (draft, ← Json.skipValue (← Json.colon text)), ?_, fun rest => rfl⟩
  intro request inner entry hentry draft rest
  have hcolon : Json.colon (':' :: ' ' :: (Json.layout inner entry.2 ++ rest))
      = .ok (' ' :: (Json.layout inner entry.2 ++ rest)) := rfl
  dsimp only
  rw [if_pos (mem_names hentry), takeEntry]
  by_cases hhas : recordReader.has entry.1 draft
  · rw [if_pos hhas, if_pos hhas]
    rfl
  · rw [if_neg hhas, if_neg hhas, hcolon, ok_bind, field_entries hentry]
    rfl

/-! ## Documents -/

/-- **A request** is read back from its document. -/
theorem ofDocument_pretty (request : Request) :
    ofDocument (Json.pretty request.toJson) = .ok request := by
  have htext : Json.pretty request.toJson
      = '\x7b' :: (Json.objectText 0 request.entries ++ []) := by
    rw [Json.pretty, toJson_eq, Json.layout_object, List.append_nil]
  have hfold : request.entries.foldlM request.takeEntry .empty
      = .ok ⟨some request.rawText, some request.pattern, some request.separator,
          some request.hasHeader⟩ := rfl
  obtain ⟨field, htakes, hread⟩ := exists_read_object (Json.nestLimit - 1)
  have hlimit : Json.nestLimit = Json.nestLimit - 1 + 1 := rfl
  rw [ofDocument, Json.document, htext, hlimit, hread,
    Json.objectRest_fields (htakes request _), hfold]
  rfl

end Rowwise.Job.Request
