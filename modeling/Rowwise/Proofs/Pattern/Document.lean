import Rowwise.Pattern.Document
import Rowwise.Proofs.Json.Brackets

/-!
# Programs as documents

A program that was written as a document is read back, unless the document nests deeper than the
reader goes; then it is refused as malformed and no other program comes of it
(`ofDocument_document`).

A segment is read whole before its fields are looked at. So what the reader finds in a segment are
values, and two readings have to agree with one writing: that of the text, which the limit can
stop, and that of the values, which only sees what passed the limit. Both rest on what a segment is
written as, its type first and then the fields that it can be made from again (`Written`).
-/

namespace Rowwise.Program

open Json (NumberFree within nesting itemsNesting fieldsNesting)

/-! ## What is written -/

theorem segmentsJson_eq (program : Program) : segmentsJson program = program.map segmentJson := by
  induction program with
  | nil => rfl
  | cons segment rest ih => rw [segmentsJson, ih, List.map_cons]

theorem argsJson_eq (args : List Program) : argsJson args = args.map toJson := by
  induction args with
  | nil => rfl
  | cons arg more ih =>
    rw [argsJson, ih, List.map_cons]
    rfl

/-- A list is read back from what its items were written as. -/
theorem mapM_map_some {α β : Type} {write : α → β} {read : β → Option α} {items : List α}
    (h : ∀ a ∈ items, read (write a) = some a) : (items.map write).mapM read = some items := by
  induction items with
  | nil => rfl
  | cons a rest ih =>
    rw [List.map_cons, List.mapM_cons, h a (by simp), ih fun a ha => h a (by simp [ha])]
    rfl

/-- The arguments of a call; other segments have none. -/
def arguments : Segment → List Program
  | .literal _ | .column _ => []
  | .call _ args => args

/-- Induction over nesting gives what is wanted of the arguments of each segment. -/
theorem forall_arguments {motive : Program → Prop} {program : Program}
    (h : ∀ name args, .call name args ∈ program → ∀ arg ∈ args, motive arg) {segment : Segment}
    (hsegment : segment ∈ program) : ∀ arg ∈ arguments segment, motive arg := by
  cases segment with
  | literal _ => simp [arguments]
  | column _ => simp [arguments]
  | call name args => exact h name args hsegment

/-- How a segment is written: as an object with its type first and then the fields from which it
can be made again, if its arguments can. -/
structure Written (segment : Segment) (kind : Kind) (name : Text) (fields : List (Text × Json)) :
    Prop where
  json : segmentJson segment = .object (("type".toList, .string name) :: fields)
  named : Kind.ofName? name = some kind
  key : ∀ entry ∈ fields, entry.1 ≠ "type".toList
  back : ∀ program? : Json → Option Program,
    (∀ arg ∈ arguments segment, program? (toJson arg) = some arg) →
      ofFields? program? kind fields = some segment

theorem exists_written (segment : Segment) :
    ∃ kind name fields, Written segment kind name fields := by
  cases segment with
  | literal text =>
    refine ⟨.literal, "literal".toList, _, rfl, rfl, by simp, ?_⟩
    intro program? _
    rfl
  | column selector =>
    refine ⟨.column, "variable".toList, _, rfl, rfl, by simp, ?_⟩
    intro program? _
    rfl
  | call name args =>
    refine ⟨.call, "call".toList, _, rfl, rfl, by simp, ?_⟩
    intro program? hargs
    have hback : (argsJson args).mapM program? = some args := by
      rw [argsJson_eq]
      exact mapM_map_some hargs
    simp [ofFields?, single?, absent, text?, items?, hback]

theorem numberFree_segmentJson_of {segment : Segment}
    (h : ∀ arg ∈ arguments segment, NumberFree (toJson arg)) :
    NumberFree (segmentJson segment) := by
  cases segment with
  | literal text =>
    refine .object (List.forall_mem_cons.mpr ⟨.string _, List.forall_mem_singleton.mpr ?_⟩)
    exact .string _
  | column selector =>
    refine .object (List.forall_mem_cons.mpr ⟨.string _, List.forall_mem_singleton.mpr ?_⟩)
    exact .string _
  | call name args =>
    refine .object (List.forall_mem_cons.mpr ⟨.string _, List.forall_mem_cons.mpr
      ⟨.string _, List.forall_mem_singleton.mpr ?_⟩⟩)
    rw [argsJson_eq]
    refine .array fun item hitem => ?_
    obtain ⟨arg, harg, rfl⟩ := List.mem_map.mp hitem
    exact h arg harg

theorem numberFree_toJson (program : Program) : NumberFree (toJson program) := by
  induction program using nested_induction with
  | step program ih =>
    refine .object (List.forall_mem_singleton.mpr ?_)
    rw [segmentsJson_eq]
    refine .array fun item hitem => ?_
    obtain ⟨segment, hsegment, rfl⟩ := List.mem_map.mp hitem
    exact numberFree_segmentJson_of (forall_arguments ih hsegment)

theorem numberFree_segmentJson (segment : Segment) : NumberFree (segmentJson segment) :=
  numberFree_segmentJson_of fun arg _ => numberFree_toJson arg

/-! ## Nesting -/

mutual

/-- How deep the document of a program nests. -/
def depth : List Segment → Nat
  | [] => 2
  | segment :: rest => max (segmentDepth segment) (depth rest)

/-- How deep the document of a program nests that is one segment. -/
def segmentDepth : Segment → Nat
  | .literal _ | .column _ => 3
  | .call _ args => 4 + argsDepth args

/-- How deep the document of the deepest argument nests. -/
def argsDepth : List (List Segment) → Nat
  | [] => 0
  | arg :: more => max (depth arg) (argsDepth more)

end

mutual

theorem itemsNesting_segmentsJson (program : List Segment) :
    itemsNesting (segmentsJson program) + 2 = depth program := by
  match program with
  | [] => rfl
  | segment :: rest =>
    have := nesting_segmentJson segment
    have := itemsNesting_segmentsJson rest
    rw [segmentsJson, itemsNesting, depth]
    omega

theorem nesting_segmentJson (segment : Segment) :
    nesting (segmentJson segment) + 2 = segmentDepth segment := by
  match segment with
  | .literal _ => rfl
  | .column _ => rfl
  | .call _ args =>
    have := itemsNesting_argsJson args
    simp only [segmentJson, Json.ofString, nesting, fieldsNesting, segmentDepth]
    omega

theorem itemsNesting_argsJson (args : List (List Segment)) :
    itemsNesting (argsJson args) = argsDepth args := by
  match args with
  | [] => rfl
  | arg :: more =>
    have := itemsNesting_segmentsJson arg
    have := itemsNesting_argsJson more
    simp only [argsJson, itemsNesting, nesting, fieldsNesting, argsDepth]
    omega

end

/-- The document of a program nests as deep as its value. -/
theorem nesting_toJson (program : Program) : nesting (toJson program) = depth program := by
  have := itemsNesting_segmentsJson program
  simp only [toJson, nesting, fieldsNesting]
  omega

/-- Every call takes four levels. -/
example : depth [.column ['0'], .call ['f'] [[.literal ['x']], [.call ['g'] []]]] = 8 := by decide

theorem nesting_segmentJson_add_le {program : Program} {segment : Segment}
    (h : segment ∈ program) : nesting (segmentJson segment) + 2 ≤ nesting (toJson program) := by
  have hmem : segmentJson segment ∈ segmentsJson program := by
    rw [segmentsJson_eq]
    exact List.mem_map_of_mem h
  have := Json.nesting_le_itemsNesting hmem
  simp only [toJson, nesting, fieldsNesting]
  omega

theorem nesting_argument_add_le {segment : Segment} {arg : Program}
    (h : arg ∈ arguments segment) : nesting (toJson arg) + 2 ≤ nesting (segmentJson segment) := by
  cases segment with
  | literal _ => exact absurd h (by simp [arguments])
  | column _ => exact absurd h (by simp [arguments])
  | call name args =>
    have hmem : toJson arg ∈ argsJson args := by
      rw [argsJson_eq]
      exact List.mem_map_of_mem h
    have := Json.nesting_le_itemsNesting hmem
    simp only [segmentJson, Json.ofString, nesting, fieldsNesting]
    omega

/-! ## Reading values -/

theorem segmentOfJson?_segmentJson {segment : Segment} {fuel : Nat}
    (hargs : ∀ arg ∈ arguments segment, ofJson? fuel (toJson arg) = some arg) :
    segmentOfJson? (fuel + 1) (segmentJson segment) = some segment := by
  obtain ⟨kind, name, fields, h⟩ := exists_written segment
  have hothers : (("type".toList, .string name) :: fields).filter (·.1 != "type".toList)
      = fields := by
    rw [List.filter_cons_of_neg (by simp)]
    apply List.filter_eq_self.mpr
    intro entry hentry
    exact bne_iff_ne.mpr (h.key entry hentry)
  have hnone : fields.filter (·.1 == "type".toList) = [] := by
    apply List.filter_eq_nil_iff.mpr
    intro entry hentry
    simpa using h.key entry hentry
  have hsingle : single? "type" (("type".toList, .string name) :: fields) = some (.string name) := by
    rw [single?, List.filter_cons_of_pos (by simp), hnone]
  have hkind : Kind.ofJson? (.string name) = some kind := h.named
  rw [h.json, segmentOfJson?, hsingle, hothers, Option.bind_some, hkind]
  exact h.back _ hargs

/-- **A program** is read back from its value. -/
theorem ofJson?_toJson {program : Program} {fuel : Nat} (h : nesting (toJson program) ≤ fuel) :
    ofJson? fuel (toJson program) = some program := by
  induction program using nested_induction generalizing fuel with
  | step program ih =>
    have hnest : 2 ≤ nesting (toJson program) := by
      simp only [toJson, nesting, fieldsNesting]
      omega
    -- a call takes two of the fuel, and four levels of the nesting
    obtain ⟨fuel, rfl⟩ : ∃ n, fuel = n + 2 := ⟨fuel - 2, by omega⟩
    have hsegments : (segmentsJson program).mapM (segmentOfJson? (fuel + 1)) = some program := by
      rw [segmentsJson_eq]
      apply mapM_map_some
      intro segment hsegment
      apply segmentOfJson?_segmentJson
      intro arg harg
      have := nesting_segmentJson_add_le hsegment
      have := nesting_argument_add_le harg
      exact forall_arguments ih hsegment arg harg (by omega)
    exact hsegments

/-! ## Reading documents -/

/-- How a field of a segment is read: the type as a name, any other as a value. -/
def segmentField (depth : Nat) (key : Text) (state : Option Kind × List (Text × Json))
    (text : Text) :
    Except Json.ReadError ((Option Kind × List (Text × Json)) × Text) := do
  if key = "type".toList then
    if state.1.isSome then .error .mismatch
    else
      let (kind, rest) ← readKind (← Json.colon text)
      .ok ((some kind, state.2), rest)
  else
    let (found, rest) ← Json.value true depth (← Json.colon text)
    .ok ((state.1, state.2 ++ [(key, found)]), rest)

theorem readSegment_object (depth : Nat) (rest : Text) :
    readSegment (depth + 1) ('\x7b' :: rest) = (do
      let ((kind, fields), rest) ← Json.objectRest true (segmentField depth) (none, []) rest
      match kind with
      | none => .error .mismatch
      | some kind => .ok (← complete (ofFields? (ofJson? Json.nestLimit) kind fields), rest)) :=
  rfl

theorem readKind_quoted {name : Text} {kind : Kind} (h : Kind.ofName? name = some kind)
    (rest : Text) : readKind (' ' :: (Json.quoted name ++ rest)) = .ok (kind, rest) := by
  have hstring : Json.expectString (' ' :: (Json.quoted name ++ rest)) = .ok (name, rest) := by
    rw [Json.quoted_append]
    exact Json.stringRest_escaped name rest
  rw [readKind, hstring]
  simp [Json.ok_bind, h]

/-- What a field of a segment adds to those before it. -/
def takeEntry (depth : Nat) (state : Option Kind × List (Text × Json)) (entry : Text × Json) :
    Except Json.ReadError (Option Kind × List (Text × Json)) :=
  if entry.1 = "type".toList then
    if state.1.isSome then .error .mismatch
    else match (text? entry.2).bind Kind.ofName? with
      | some kind => .ok (some kind, state.2)
      | none => .error .mismatch
  else within depth (nesting entry.2) (state.1, state.2 ++ [entry])

theorem takesUp_segment {segment : Segment} {kind : Kind} {name : Text}
    {fields : List (Text × Json)} (h : Written segment kind name fields) (depth inner : Nat) :
    Json.TakesUp inner (segmentField depth) (takeEntry depth)
      (("type".toList, .string name) :: fields) := by
  intro entry hentry state rest
  have hcolon : Json.colon (':' :: ' ' :: (Json.layout inner entry.2 ++ rest))
      = .ok (' ' :: (Json.layout inner entry.2 ++ rest)) := rfl
  have hfree : NumberFree entry.2 := by
    have hsegment := numberFree_segmentJson segment
    rw [h.json] at hsegment
    exact hsegment.of_mem_object hentry
  rcases List.mem_cons.mp hentry with rfl | hentry
  · rw [segmentField, takeEntry, if_pos rfl, if_pos rfl, hcolon, Json.ok_bind, Json.layout,
      readKind_quoted h.named]
    cases state.1 with
    | some _ => rfl
    | none => simp [text?, h.named, Json.ok_bind, Except.map]
  · rw [segmentField, takeEntry, if_neg (h.key entry hentry), if_neg (h.key entry hentry), hcolon,
      Json.ok_bind, Json.value_space, Json.value_layout hfree, Json.map_within, Json.map_within]
    exact Json.within_bind_pure _ _

/-- Fields other than the type are kept as they come. -/
theorem foldlM_takeEntry {fields : List (Text × Json)}
    (h : ∀ entry ∈ fields, entry.1 ≠ "type".toList) (depth : Nat)
    (state : Option Kind × List (Text × Json)) :
    fields.foldlM (takeEntry depth) state
      = within depth (fieldsNesting fields) (state.1, state.2 ++ fields) := by
  induction fields generalizing state with
  | nil =>
    rw [List.append_nil]
    rfl
  | cons entry rest ih =>
    have hentry : takeEntry depth state entry
        = within depth (nesting entry.2) (state.1, state.2 ++ [entry]) :=
      if_neg (h entry (by simp))
    rw [List.foldlM_cons, hentry]
    simp only [ih fun entry hentry => h entry (by simp [hentry])]
    rw [Json.within_bind, fieldsNesting]
    simp

/-- **A segment** of a document is read, unless it nests too deep. -/
theorem readSegment_layout (segment : Segment) {depth : Nat} (hdepth : depth ≤ Json.nestLimit)
    (indent : Nat) (rest : Text) :
    readSegment depth (Json.layout indent (segmentJson segment) ++ rest)
      = (within depth (nesting (segmentJson segment)) segment).map (·, rest) := by
  obtain ⟨kind, name, fields, h⟩ := exists_written segment
  have hnesting : nesting (segmentJson segment) = fieldsNesting fields + 1 := by
    simp [h.json, nesting, fieldsNesting]
  rw [hnesting, h.json, Json.layout_object, List.cons_append]
  cases depth with
  | zero => rfl
  | succ depth =>
    have hfields : (("type".toList, .string name) :: fields).foldlM (takeEntry depth) (none, [])
        = within depth (fieldsNesting fields) (some kind, fields) := by
      have htype : takeEntry depth (none, []) ("type".toList, .string name)
          = .ok (some kind, []) := by
        simp [takeEntry, text?, h.named]
      rw [List.foldlM_cons, htype]
      exact foldlM_takeEntry h.key depth (some kind, [])
    rw [readSegment_object, Json.objectRest_fields (takesUp_segment h depth (indent + 1)), hfields,
      Json.within_succ, Json.map_within, Json.map_within]
    apply Json.within_bind_ok
    intro hlimit
    -- the arguments passed the limit, so their values do not nest too deep to be read either
    have hback : ofFields? (ofJson? Json.nestLimit) kind fields = some segment := by
      apply h.back
      intro arg harg
      apply ofJson?_toJson
      have := nesting_argument_add_le harg
      omega
    simp only [hback]
    rfl

/-- An object is read as a program by a reader of fields that takes up the segments once. -/
theorem exists_read_object (depth : Nat) :
    ∃ field : Text → Option Program → Json.Reader (Option Program),
      (∀ state text, field "segments".toList state (':' :: text) =
        if state.isSome then .error .mismatch
        else (Json.expectArray depth readSegment text).map fun found => (some found.1, found.2)) ∧
      ∀ rest, read (depth + 1) ('\x7b' :: rest) = (do
        let (state, rest) ← Json.objectRest true field none rest
        match state with
        | some program => .ok (program, rest)
        | none => .error .mismatch) := by
  refine ⟨fun key state text =>
    if key ∈ recordReader.names then
      if recordReader.has key state then .error .mismatch
      else do recordReader.field depth key state (← Json.colon text)
    else do .ok (state, ← Json.skipValue (← Json.colon text)), ?_, ?_⟩
  · intro state text
    cases state with
    | none => rfl
    | some _ => rfl
  · intro rest
    have hskip : Json.skipSpace ('\x7b' :: rest) = '\x7b' :: rest := rfl
    unfold read Json.RecordReader.read
    simp only [hskip]
    cases Json.objectRest true _ none rest with
    | error _ => rfl
    | ok found =>
      obtain ⟨state, rest⟩ := found
      cases state with
      | none => rfl
      | some _ => rfl

/-- The segments of a program are read, unless they nest too deep. -/
theorem expectArray_segments (program : Program) {depth : Nat} (hdepth : depth ≤ Json.nestLimit)
    (indent : Nat) (rest : Text) :
    Json.expectArray depth readSegment
        (' ' :: (Json.layout indent (.array (segmentsJson program)) ++ rest))
      = (within depth (itemsNesting (segmentsJson program) + 1) program).map (·, rest) := by
  rw [Json.layout_array]
  cases depth with
  | zero => rfl
  | succ depth =>
    have hback : Json.ReadsBack (readSegment depth)
        (fun segment => Json.layout (indent + 1) (segmentJson segment))
        (fun segment => within depth (nesting (segmentJson segment)) segment) program :=
      ⟨fun segment _ => Json.begins_layout (numberFree_segmentJson segment) _,
        fun segment _ => readSegment_layout segment (by omega) _⟩
    have hopen : ∀ text : Text, Json.expectArray (depth + 1) readSegment (' ' :: '[' :: text)
        = Json.arrayRest (readSegment depth) text := fun _ => rfl
    rw [List.cons_append, hopen, segmentsJson_eq, Json.arrayText_map, Json.arrayRest_items hback,
      Json.mapM_within, Json.itemsNesting_eq, List.map_map, List.map_id', Json.within_succ]
    rfl

/-- What the field of a program adds to the state. -/
def takeSegments (depth : Nat) (program : Program) (state : Option Program) (_ : Text × Json) :
    Except Json.ReadError (Option Program) :=
  if state.isSome then .error .mismatch
  else within depth (itemsNesting (segmentsJson program) + 1) (some program)

/-- **A program** in a document is read, unless it nests too deep. -/
theorem read_layout (program : Program) {depth : Nat} (hdepth : depth ≤ Json.nestLimit)
    (indent : Nat) (rest : Text) :
    read depth (Json.layout indent (toJson program) ++ rest)
      = (within depth (nesting (toJson program)) program).map (·, rest) := by
  have hnesting : nesting (toJson program) = itemsNesting (segmentsJson program) + 1 + 1 := by
    simp [toJson, nesting, fieldsNesting]
  rw [hnesting, toJson, Json.layout_object, List.cons_append]
  cases depth with
  | zero => rfl
  | succ depth =>
    obtain ⟨field, hfield, hread⟩ := exists_read_object depth
    have htakes : Json.TakesUp (indent + 1) field (takeSegments depth program)
        [("segments".toList, .array (segmentsJson program))] := by
      intro entry hentry state rest
      rw [List.mem_singleton.mp hentry, hfield, takeSegments,
        expectArray_segments program (by omega)]
      cases state with
      | some _ => rfl
      | none =>
        simp only [Option.isSome_none, Bool.false_eq_true, if_false, Json.map_within]
    have hfields : [("segments".toList, Json.array (segmentsJson program))].foldlM
          (takeSegments depth program) none
        = within depth (itemsNesting (segmentsJson program) + 1) (some program) := by
      rw [List.foldlM_cons]
      exact Json.within_bind_pure id _
    rw [hread, Json.objectRest_fields htakes, hfields, Json.within_succ, Json.map_within,
      Json.map_within]
    exact Json.within_bind_ok fun _ => rfl

/-- **Programs as documents**: the brackets of a program's document nest as deep as `depth` tells,
and the document holds the program again if they nest no more than 127 deep. If they nest deeper,
the document is malformed for the reader. -/
theorem ofDocument_document (program : Program) :
    Json.bracketDepth false 0 (document program) = depth program ∧
      ofDocument (document program)
        = if depth program ≤ 127 then .ok program else .error .malformed := by
  have htext : document program = Json.layout 0 (toJson program) ++ [] := by
    simp [document, Json.pretty]
  constructor
  · rw [htext, Json.bracketDepth_layout, nesting_toJson]
    simp [Json.bracketDepth]
  · rw [ofDocument, Json.document, htext, read_layout program (Nat.le_refl _), nesting_toJson,
      Json.map_within]
    exact Json.within_bind_ok fun _ => rfl

end Rowwise.Program
