import Rowwise.Proofs.Machine.Compile
import Rowwise.Proofs.Machine.Function
import Rowwise.Proofs.Pattern.Determinism

/-!
# Machine — Rendering

Preparing and rendering as a machine does it: one flag is handed through all segments, and one
counter of substitutions through all rows. Counting is the only step here that could fail by
itself. A segment is counted once at most whenever it is rendered, so that no more substitutions
are counted than segments are rendered (`substitutions_render_le`).

The main statement is that compiling, preparing, calling and rendering run to completion, and give
the programs, values and reports that are meant (`runs_to_completion`).
-/

namespace Rowwise.Machine

/-! ## Preparing -/

mutual

/-- Resolves a segment, and takes the flag away if a function that draws is called. -/
def prepareSegment (steady : Bool) : Segment → Node × Bool
  | .literal text => (.literal text, steady)
  | .column selector => (.column (.ofText selector), steady)
  | .call name args =>
    match Function.lookup? name with
    | some function =>
      if function.arity.isNullary then (.call function [], steady && function.isDeterministic)
      else if function.arity.accepts args.length then
        let (args, steady) := prepareArgs (steady && function.isDeterministic) args
        (.call function args, steady)
      else (.fault, steady)
    | none => (.fault, steady)

/-- Resolves call arguments one after the other. -/
def prepareArgs (steady : Bool) : List (List Segment) → List (List Node) × Bool
  | [] => ([], steady)
  | program :: more =>
    let (first, steady) := prepareSegments steady program
    let (others, steady) := prepareArgs steady more
    (first :: others, steady)

/-- Resolves segments one after the other. -/
def prepareSegments (steady : Bool) : List Segment → List Node × Bool
  | [] => ([], steady)
  | segment :: rest =>
    let (first, steady) := prepareSegment steady segment
    let (others, steady) := prepareSegments steady rest
    (first :: others, steady)

end

/-- A program with its names resolved, and whether it renders the same for the same row. No step of
this can fail. -/
def prepare (program : Program) : Prepared × Bool :=
  let (nodes, steady) := prepareSegments true program
  (⟨nodes⟩, steady)

mutual

theorem prepareSegment_eq (steady : Bool) : ∀ segment : Segment, prepareSegment steady segment
    = (Prepared.prepareSegment segment,
        steady && Prepared.nodeDeterministic (Prepared.prepareSegment segment))
  | .literal text | .column selector => by
    simp [prepareSegment, Prepared.prepareSegment, Prepared.nodeDeterministic]
  | .call name args => by
    rw [prepareSegment, Prepared.prepareSegment]
    cases Function.lookup? name with
    | none => simp [Prepared.nodeDeterministic]
    | some function =>
      dsimp only
      split
      · simp [Prepared.nodeDeterministic, Prepared.argsDeterministic]
      split
      · simp [prepareArgs_eq _ args, Prepared.nodeDeterministic, Bool.and_assoc]
      · simp [Prepared.nodeDeterministic]

theorem prepareArgs_eq (steady : Bool) : ∀ args : List (List Segment), prepareArgs steady args
    = (Prepared.prepareArgs args,
        steady && Prepared.argsDeterministic (Prepared.prepareArgs args))
  | [] => by simp [prepareArgs, Prepared.prepareArgs, Prepared.argsDeterministic]
  | program :: more => by
    simp [prepareArgs, Prepared.prepareArgs, Prepared.argsDeterministic,
      prepareSegments_eq _ program, prepareArgs_eq _ more, Bool.and_assoc]

theorem prepareSegments_eq (steady : Bool) : ∀ program : List Segment,
    prepareSegments steady program
      = (Prepared.prepareSegments program,
          steady && Prepared.nodesDeterministic (Prepared.prepareSegments program))
  | [] => by simp [prepareSegments, Prepared.prepareSegments, Prepared.nodesDeterministic]
  | segment :: rest => by
    simp [prepareSegments, Prepared.prepareSegments, Prepared.nodesDeterministic,
      prepareSegment_eq _ segment, prepareSegments_eq _ rest, Bool.and_assoc]

end

/-- **Preparing** gives the prepared program, and the flag says whether it is deterministic. -/
theorem prepare_eq (program : Program) : prepare program
    = (Prepared.ofProgram program, (Prepared.ofProgram program).isDeterministic) := by
  simp [prepare, prepareSegments_eq, Prepared.ofProgram, Prepared.isDeterministic]

/-! ## Rendering -/

/-- Counts a segment that cannot be resolved. -/
def unresolved (count : Nat) (draws : Draws) : Checked (Rendered × Draws) := do
  .ok (⟨errText, ← add count 1⟩, draws)

mutual

/-- Renders a node after so many substitutions. -/
def renderNode (context : Context) (count : Nat) (draws : Draws) :
    Node → Checked (Rendered × Draws)
  | .literal text => .ok (⟨text, count⟩, draws)
  | .column selector =>
    match selector.cell? context with
    | some cell => .ok (⟨cell, count⟩, draws)
    | none => unresolved count draws
  | .call function args => do
    let (values, count, draws) ← renderArgs context count draws args
    let (result, draws) ← call function values draws
    match result with
    | .ok text => .ok (⟨text, count⟩, draws)
    | .error _ => unresolved count draws
  | .fault => unresolved count draws

/-- Renders call arguments from left to right. -/
def renderArgs (context : Context) (count : Nat) (draws : Draws) :
    List (List Node) → Checked (List Text × Nat × Draws)
  | [] => .ok ([], count, draws)
  | nodes :: more => do
    let (first, draws) ← renderNodes context count draws nodes
    let (values, count, draws) ← renderArgs context first.substitutions draws more
    .ok (first.text :: values, count, draws)

/-- Renders nodes from left to right. -/
def renderNodes (context : Context) (count : Nat) (draws : Draws) :
    List Node → Checked (Rendered × Draws)
  | [] => .ok (⟨[], count⟩, draws)
  | node :: rest => do
    let (first, draws) ← renderNode context count draws node
    let (others, draws) ← renderNodes context first.substitutions draws rest
    .ok (⟨first.text ++ others.text, others.substitutions⟩, draws)

end

/-- Renders rows after what was rendered before. -/
def renderRows (prepared : Prepared) (headers : List Text) (lineSeparator : Text) :
    Report → List Row → Draws → Checked (Report × Draws)
  | report, [], draws => .ok (report, draws)
  | report, row :: rest, draws => do
    let (line, draws) ← renderNodes ⟨headers, row⟩ report.substitutions draws prepared.nodes
    let rows ← add report.rows 1
    renderRows prepared headers lineSeparator
      ⟨report.text ++ line.text ++ lineSeparator, rows, line.substitutions⟩ rest draws

/-- Renders every row of a dataset. -/
def render (prepared : Prepared) (data : Dataset) (lineSeparator : Text) (draws : Draws) :
    Checked (Report × Draws) :=
  renderRows prepared data.headers lineSeparator ⟨[], 0, 0⟩ data.rows draws

/-! ## Lengths -/

mutual

/-- The argument texts of all calls that come up when a node is rendered. -/
def nodeTexts (context : Context) (draws : Draws) : Node → List Text
  | .literal _ | .column _ | .fault => []
  | .call _ args => argTexts context draws args

/-- The texts of call arguments and of all calls inside of them. -/
def argTexts (context : Context) (draws : Draws) : List (List Node) → List Text
  | [] => []
  | nodes :: more =>
    let (first, left) := Prepared.renderNodes context draws nodes
    first.text :: nodesTexts context draws nodes ++ argTexts context left more

/-- The argument texts of all calls that come up when nodes are rendered. -/
def nodesTexts (context : Context) (draws : Draws) : List Node → List Text
  | [] => []
  | node :: rest =>
    nodeTexts context draws node ++
      nodesTexts context (Prepared.renderNode context draws node).2 rest

end

/-- The argument texts of all calls that come up when rows are rendered. -/
def rowsTexts (prepared : Prepared) (headers : List Text) : List Row → Draws → List Text
  | [], _ => []
  | row :: rest, draws =>
    nodesTexts ⟨headers, row⟩ draws prepared.nodes ++
      rowsTexts prepared headers rest (prepared.renderLine ⟨headers, row⟩ draws).2

/-- A run stays within its bounds. Lengths are below theirs: that of the list of rows, and those of
the texts that functions are called with. And rows times segments stay below the bound of a word.
The counter of substitutions is one word for the whole run, which each row may raise once for each
segment, nested ones included; without this bound it could overflow though every length is small. -/
structure Fits (program : Program) (data : Dataset) (draws : Draws) : Prop where
  rows : data.rows.length < lengthBound
  run : data.rows.length * (Program.segments program).length < wordBound
  texts : ∀ text ∈ rowsTexts (Prepared.ofProgram program) data.headers data.rows draws,
    Text.utf8Size text < lengthBound

/-! ## No more substitutions than segments -/

/-- What becomes of a call: a fault, or a call of a function of the table, with its arguments or
without any. -/
theorem prepareSegment_call (name : Text) (args : List Program) :
    Prepared.prepareSegment (.call name args) = .fault ∨ ∃ function ∈ Function.table,
      Prepared.prepareSegment (.call name args) = .call function [] ∨
        Prepared.prepareSegment (.call name args)
          = .call function (Prepared.prepareArgs args) := by
  rw [Prepared.prepareSegment]
  cases hlookup : Function.lookup? name with
  | none => exact .inl rfl
  | some function =>
    have hfunction := (Function.mem_table_of_lookup? hlookup).1
    dsimp only
    split
    · exact .inr ⟨function, hfunction, .inl rfl⟩
    split
    · exact .inr ⟨function, hfunction, .inr rfl⟩
    · exact .inl rfl

/-- A call counts the substitutions in its arguments, and one more at most. -/
theorem substitutions_call (context : Context) (draws : Draws) (function : Function)
    (args : List (List Node)) :
    (Prepared.renderArgs context draws args).2.1
        ≤ (Prepared.renderNode context draws (.call function args)).1.substitutions ∧
      (Prepared.renderNode context draws (.call function args)).1.substitutions
        ≤ 1 + (Prepared.renderArgs context draws args).2.1 := by
  rw [Prepared.renderNode]
  obtain ⟨values, substitutions, left⟩ := Prepared.renderArgs context draws args
  dsimp only
  cases (function.call values left).1 with
  | ok text => exact ⟨Nat.le_refl _, Nat.le_add_left _ 1⟩
  | error _ => exact ⟨Nat.le_add_right _ 1, Nat.le_of_eq (Nat.add_comm _ 1)⟩

mutual

theorem substitutions_renderNode_le (context : Context) (draws : Draws) : ∀ segment : Segment,
    (Prepared.renderNode context draws (Prepared.prepareSegment segment)).1.substitutions
      ≤ 1 + (Program.below segment).length
  | .literal text => Nat.zero_le _
  | .column selector => by
    rw [Prepared.prepareSegment, Prepared.renderNode]
    split
    · exact Nat.zero_le _
    · exact Nat.le_add_right 1 _
  | .call name args => by
    rcases prepareSegment_call name args with hfault | ⟨function, -, hcall | hcall⟩
    · rw [hfault]
      exact Nat.le_add_right 1 _
    · rw [hcall]
      exact Nat.le_trans (substitutions_call context draws function []).2 (Nat.le_add_right 1 _)
    · rw [hcall]
      exact Nat.le_trans (substitutions_call context draws function _).2
        (Nat.add_le_add_left (substitutions_renderArgs_le context draws args) 1)

theorem substitutions_renderArgs_le (context : Context) (draws : Draws) :
    ∀ args : List (List Segment),
      (Prepared.renderArgs context draws (Prepared.prepareArgs args)).2.1
        ≤ (Program.belowAll args).length
  | [] => Nat.le_refl 0
  | program :: more => by
    have hfirst := substitutions_renderNodes_le context draws program
    have hmore := substitutions_renderArgs_le context
      (Prepared.renderNodes context draws (Prepared.prepareSegments program)).2 more
    rw [Prepared.prepareArgs, Prepared.renderArgs, Program.belowAll, List.length_append]
    exact Nat.add_le_add hfirst hmore

theorem substitutions_renderNodes_le (context : Context) (draws : Draws) :
    ∀ program : List Segment,
      (Prepared.renderNodes context draws (Prepared.prepareSegments program)).1.substitutions
        ≤ (Program.segments program).length
  | [] => Nat.le_refl 0
  | segment :: rest => by
    have hfirst := substitutions_renderNode_le context draws segment
    have hrest := substitutions_renderNodes_le context
      (Prepared.renderNode context draws (Prepared.prepareSegment segment)).2 rest
    rw [Prepared.prepareSegments, Prepared.renderNodes, Program.segments, List.length_append,
      List.length_cons, Nat.add_comm _ 1]
    exact Nat.add_le_add hfirst hrest

end

/-- **No more substitutions** are counted than segments are rendered. -/
theorem substitutions_render_le (program : Program) (data : Dataset) (lineSeparator : Text)
    (draws : Draws) :
    ((Prepared.ofProgram program).render data lineSeparator draws).1.substitutions
      ≤ data.rows.length * (Program.segments program).length := by
  obtain ⟨headers, rows⟩ := data
  rw [Prepared.render]
  induction rows generalizing draws with
  | nil => exact Nat.zero_le _
  | cons row rest ih =>
    have hline := substitutions_renderNodes_le ⟨headers, row⟩ draws program
    have hrest := ih ((Prepared.ofProgram program).renderLine ⟨headers, row⟩ draws).2
    rw [List.length_cons, Nat.succ_mul, Nat.add_comm]
    exact Nat.add_le_add hline hrest

/-! ## Rendering as it is meant -/

/-- A rendered part with the substitutions that were counted before. -/
def counted (count : Nat) (outcome : Rendered × Draws) : Rendered × Draws :=
  (⟨outcome.1.text, count + outcome.1.substitutions⟩, outcome.2)

/-- Rendered arguments with the substitutions that were counted before. -/
def countedArgs (count : Nat) (outcome : List Text × Nat × Draws) : List Text × Nat × Draws :=
  (outcome.1, count + outcome.2.1, outcome.2.2)

theorem unresolved_eq {count : Nat} (h : count + 1 < wordBound) (draws : Draws) :
    unresolved count draws = .ok (⟨errText, count + 1⟩, draws) := by
  rw [unresolved, add, if_pos h]
  rfl

/-- The values of arguments are among the texts that come up. -/
theorem mem_argTexts {context : Context} {draws : Draws} {args : List (List Node)} {text : Text}
    (h : text ∈ (Prepared.renderArgs context draws args).1) : text ∈ argTexts context draws args := by
  induction args generalizing draws with
  | nil => cases h
  | cons nodes more ih =>
    rw [Prepared.renderArgs] at h
    rw [argTexts]
    rcases List.mem_cons.mp h with rfl | h
    · exact List.mem_cons_self
    · exact List.mem_append_right _ (ih h)

/-- **A call** gives its function's value, or an error that is counted. -/
theorem renderCall_eq {context : Context} {count : Nat} {draws : Draws} {function : Function}
    (hfunction : function ∈ Function.table) {args : List (List Node)}
    (hargs : renderArgs context count draws args
      = .ok (countedArgs count (Prepared.renderArgs context draws args)))
    (hcount : count + (Prepared.renderNode context draws (.call function args)).1.substitutions
      < wordBound)
    (htexts : ∀ text ∈ argTexts context draws args, Text.utf8Size text < lengthBound) :
    renderNode context count draws (.call function args)
      = .ok (counted count (Prepared.renderNode context draws (.call function args))) := by
  have hvalues : ∀ text ∈ (Prepared.renderArgs context draws args).1,
      Text.utf8Size text < lengthBound := fun text htext => htexts text (mem_argTexts htext)
  rw [Prepared.renderNode] at hcount ⊢
  rw [renderNode, hargs, ok_bind]
  generalize Prepared.renderArgs context draws args = outcome at hvalues hcount ⊢
  obtain ⟨values, substitutions, left⟩ := outcome
  dsimp only [countedArgs] at hvalues hcount ⊢
  rw [call_eq hfunction hvalues, ok_bind]
  generalize function.call values left = outcome at hcount ⊢
  obtain ⟨result, left⟩ := outcome
  cases result with
  | ok text => rfl
  | error error => exact unresolved_eq hcount left

mutual

theorem renderSegment_eq (context : Context) (count : Nat) (draws : Draws) :
    ∀ segment : Segment,
      count + (Prepared.renderNode context draws (Prepared.prepareSegment segment)).1.substitutions
        < wordBound →
      (∀ text ∈ nodeTexts context draws (Prepared.prepareSegment segment),
        Text.utf8Size text < lengthBound) →
      renderNode context count draws (Prepared.prepareSegment segment)
        = .ok (counted count
          (Prepared.renderNode context draws (Prepared.prepareSegment segment)))
  | .literal text, _, _ => rfl
  | .column selector, hcount, _ => by
    rw [Prepared.prepareSegment, Prepared.renderNode] at hcount ⊢
    rw [renderNode]
    cases hcell : (Selector.ofText selector).cell? context with
    | some cell => rfl
    | none =>
      rw [hcell] at hcount
      exact unresolved_eq hcount draws
  | .call name args, hcount, htexts => by
    rcases prepareSegment_call name args with hfault | ⟨function, hfunction, hcall | hcall⟩
    · rw [hfault] at hcount ⊢
      exact unresolved_eq hcount draws
    · rw [hcall] at hcount htexts ⊢
      exact renderCall_eq hfunction rfl hcount htexts
    · rw [hcall] at hcount htexts ⊢
      have hbefore : count + (Prepared.renderArgs context draws (Prepared.prepareArgs args)).2.1
          < wordBound := Nat.lt_of_le_of_lt
        (Nat.add_le_add_left (substitutions_call context draws function _).1 count) hcount
      exact renderCall_eq hfunction (renderArguments_eq context count draws args hbefore htexts)
        hcount htexts

theorem renderArguments_eq (context : Context) (count : Nat) (draws : Draws) :
    ∀ args : List (List Segment),
      count + (Prepared.renderArgs context draws (Prepared.prepareArgs args)).2.1 < wordBound →
      (∀ text ∈ argTexts context draws (Prepared.prepareArgs args),
        Text.utf8Size text < lengthBound) →
      renderArgs context count draws (Prepared.prepareArgs args)
        = .ok (countedArgs count (Prepared.renderArgs context draws (Prepared.prepareArgs args)))
  | [], _, _ => rfl
  | program :: more, hcount, htexts => by
    rw [Prepared.prepareArgs] at hcount htexts ⊢
    -- the other arguments count on from the substitutions in the first one
    have hsum : count + ((Prepared.renderNodes context draws
        (Prepared.prepareSegments program)).1.substitutions + _) < wordBound := hcount
    rw [argTexts] at htexts
    have hfirst := renderSegments_eq context count draws program (by omega) fun text htext =>
      htexts text (List.mem_append_left _ (List.mem_cons_of_mem _ htext))
    have hmore := renderArguments_eq context _ _ more (Nat.add_assoc count _ _ ▸ hsum)
      fun text htext => htexts text (List.mem_append_right _ htext)
    rw [renderArgs, hfirst, ok_bind]
    dsimp only [counted]
    rw [hmore, ok_bind, Prepared.renderArgs]
    simp only [countedArgs, Nat.add_assoc]

theorem renderSegments_eq (context : Context) (count : Nat) (draws : Draws) :
    ∀ program : List Segment,
      count + (Prepared.renderNodes context draws
        (Prepared.prepareSegments program)).1.substitutions < wordBound →
      (∀ text ∈ nodesTexts context draws (Prepared.prepareSegments program),
        Text.utf8Size text < lengthBound) →
      renderNodes context count draws (Prepared.prepareSegments program)
        = .ok (counted count
          (Prepared.renderNodes context draws (Prepared.prepareSegments program)))
  | [], _, _ => rfl
  | segment :: rest, hcount, htexts => by
    rw [Prepared.prepareSegments] at hcount htexts ⊢
    have hsum : count + ((Prepared.renderNode context draws
        (Prepared.prepareSegment segment)).1.substitutions + _) < wordBound := hcount
    rw [nodesTexts] at htexts
    have hfirst := renderSegment_eq context count draws segment (by omega) fun text htext =>
      htexts text (List.mem_append_left _ htext)
    have hrest := renderSegments_eq context _ _ rest (Nat.add_assoc count _ _ ▸ hsum)
      fun text htext => htexts text (List.mem_append_right _ htext)
    rw [renderNodes, hfirst, ok_bind]
    dsimp only [counted]
    rw [hrest, ok_bind, Prepared.renderNodes]
    simp only [counted, Rendered.append, Nat.add_assoc]

end

/-- A report of some rows after the report of the rows before. -/
def continued (before : Report) (outcome : Report × Draws) : Report × Draws :=
  (⟨before.text ++ outcome.1.text, before.rows + outcome.1.rows,
    before.substitutions + outcome.1.substitutions⟩, outcome.2)

/-- **Row after row**, the report goes on from what was rendered and counted before. -/
theorem renderRows_eq (program : Program) (headers : List Text) (lineSeparator : Text)
    (before : Report) (rows : List Row) (draws : Draws)
    (hrows : before.rows + rows.length < wordBound)
    (hcount : before.substitutions + ((Prepared.ofProgram program).renderRows headers lineSeparator
      rows draws).1.substitutions < wordBound)
    (htexts : ∀ text ∈ rowsTexts (Prepared.ofProgram program) headers rows draws,
      Text.utf8Size text < lengthBound) :
    renderRows (Prepared.ofProgram program) headers lineSeparator before rows draws
      = .ok (continued before
        ((Prepared.ofProgram program).renderRows headers lineSeparator rows draws)) := by
  induction rows generalizing before draws with
  | nil => simp [renderRows, Prepared.renderRows, continued]
  | cons row rest ih =>
    -- what the line counts, the rows after it find counted
    have hsum : before.substitutions + (((Prepared.ofProgram program).renderLine ⟨headers, row⟩
        draws).1.substitutions + _) < wordBound := hcount
    rw [rowsTexts] at htexts
    rw [List.length_cons] at hrows
    have hline : renderNodes ⟨headers, row⟩ before.substitutions draws
        (Prepared.ofProgram program).nodes = .ok (counted before.substitutions
          ((Prepared.ofProgram program).renderLine ⟨headers, row⟩ draws)) :=
      renderSegments_eq ⟨headers, row⟩ before.substitutions draws program
        (Nat.lt_of_le_of_lt (Nat.add_le_add_left (Nat.le_add_right _ _) _) hsum)
        fun text htext => htexts text (List.mem_append_left _ htext)
    have hadd : add before.rows 1 = .ok (before.rows + 1) := if_pos (by omega)
    rw [renderRows, hline, ok_bind]
    dsimp only [counted]
    rw [hadd, ok_bind, ih _ _ (by dsimp only; omega) (Nat.add_assoc .. ▸ hsum)
      fun text htext => htexts text (List.mem_append_right _ htext), Prepared.renderRows]
    simp only [continued, List.append_assoc, Nat.add_assoc, Nat.add_comm 1]

/-- **Rendering does not fail** in a run within its bounds (`Fits`): it gives the report. -/
theorem render_eq {program : Program} {data : Dataset} {draws : Draws}
    (h : Fits program data draws) (lineSeparator : Text) :
    render (Prepared.ofProgram program) data lineSeparator draws
      = .ok ((Prepared.ofProgram program).render data lineSeparator draws) := by
  have hbound : lengthBound < wordBound := by decide
  have hcount := substitutions_render_le program data lineSeparator draws
  have hrows := h.rows
  have hrun := h.run
  rw [Prepared.render] at hcount
  rw [render, renderRows_eq program data.headers lineSeparator ⟨[], 0, 0⟩ data.rows draws
    (by rw [Nat.zero_add]; omega) (by rw [Nat.zero_add]; omega) h.texts]
  simp [continued, Prepared.render]

/-- A function that has no value does not stop the machine: its error becomes `ERR`. -/
theorem renderNode_error {context : Context} {count before : Nat} {draws left last : Draws}
    {function : Function} (hfunction : function ∈ Function.table) {args : List (List Node)}
    {values : List Text} {error : CallError}
    (hargs : renderArgs context before draws args = .ok (values, count, left))
    (hvalues : ∀ value ∈ values, Text.utf8Size value < lengthBound)
    (hcount : count + 1 < wordBound)
    (herror : function.call values left = (.error error, last)) :
    renderNode context before draws (.call function args)
      = .ok (⟨errText, count + 1⟩, last) := by
  rw [renderNode, hargs, ok_bind]
  dsimp only
  rw [call_eq hfunction hvalues, herror, ok_bind]
  exact unresolved_eq hcount last

/-! ## Everything runs to completion -/

/-- **Nothing stops.** No step is taken outside of a list, off the boundaries of characters or
beyond a word, and every loop ends:

* compiling any text below 2^63 bytes gives its program and its issues;
* preparing any program, compiled or not, gives it with its names resolved;
* calling a function of the table with any number of any arguments below 2^63 bytes gives its value
  or its error;
* rendering rows of any shapes by any program gives the report, in a run within its bounds (`Fits`):
  rows and texts are shorter than 2^63, and rows times segments stay below 2^64. The counter of
  substitutions needs the latter. It is a word, it goes on from row to row, and each row may count
  each segment once.

A function's error does not go further: it becomes the text `ERR` and is counted. -/
theorem runs_to_completion :
    (∀ pattern, Text.utf8Size pattern < lengthBound →
      compileIssues pattern = .ok (Pattern.compile pattern, Pattern.diagnose pattern)) ∧
    (∀ program, prepare program
      = (Prepared.ofProgram program, (Prepared.ofProgram program).isDeterministic)) ∧
    (∀ function ∈ Function.table, ∀ args draws,
      (∀ arg ∈ args, Text.utf8Size arg < lengthBound) →
        call function args draws = .ok (function.call args draws)) ∧
    (∀ program data lineSeparator draws, Fits program data draws →
      render (Prepared.ofProgram program) data lineSeparator draws
        = .ok ((Prepared.ofProgram program).render data lineSeparator draws)) ∧
    (∀ function ∈ Function.table, ∀ context before draws args values count left error last,
      renderArgs context before draws args = .ok (values, count, left) →
      (∀ value ∈ values, Text.utf8Size value < lengthBound) → count + 1 < wordBound →
      function.call values left = (.error error, last) →
        renderNode context before draws (.call function args)
          = .ok (⟨errText, count + 1⟩, last)) := by
  refine ⟨fun _ => compileIssues_eq, prepare_eq, ?call, ?render, ?error⟩
  case call => exact fun _ hfunction _ draws hargs => call_eq hfunction hargs draws
  case render => exact fun _ _ lineSeparator _ hfits => render_eq hfits lineSeparator
  case error =>
    intro function hfunction context before draws args values count left error last
    exact renderNode_error hfunction

/-- Draws that are all zero. -/
def zeros : Draws := ⟨fun _ => 0, 0⟩

/-- `ß$(5)@slice(日本語,-9e99)` in segments. -/
def farSlice : Program :=
  [.literal ['ß'], .column ['5'],
    .call "slice".toList [[.literal "日本語".toList], [.literal "-9e99".toList]]]

/-- A row of two cells and an empty one. -/
def raggedRows : Dataset := ⟨[], [["a".toList, "b".toList], []]⟩

/-- Constructs that are left open behind wide characters are compiled, a position is found behind
wide characters, an index far out of range is clamped in rows of different lengths, and an escape
that is cut short becomes `ERR`. -/
theorem runs_to_completion_wide :
    compileIssues "ü$(0@slice(日本,-9e99)%é".toList
        = .ok (Pattern.compile "ü$(0@slice(日本,-9e99)%é".toList,
            Pattern.diagnose "ü$(0@slice(日本,-9e99)%é".toList) ∧
      prepare farSlice = (Prepared.ofProgram farSlice, true) ∧
      call Function.table[2] ["日本語".toList, "語".toList] zeros = .ok (.ok "2".toList, zeros) ∧
      (∃ last, render (Prepared.ofProgram farSlice) raggedRows ['\n'] zeros
        = .ok (⟨"ßERR日本語\nßERR日本語\n".toList, 2, 2⟩, last)) ∧
      renderNode ⟨[], []⟩ 6 zeros (.call Function.table[17] [[.literal "é%4".toList]])
        = .ok (⟨errText, 7⟩, zeros) := by
  obtain ⟨hcompile, hprepare, hcall, hrender, herror⟩ := runs_to_completion
  refine ⟨hcompile _ (by decide), ?_, ?_, ?_, ?_⟩
  · rw [hprepare]
    rfl
  · rw [hcall _ (List.getElem_mem _) _ _ (by decide)]
    rfl
  · have hreport : ((Prepared.ofProgram farSlice).render raggedRows ['\n'] zeros).1
        = ⟨"ßERR日本語\nßERR日本語\n".toList, 2, 2⟩ := by decide +kernel
    refine ⟨((Prepared.ofProgram farSlice).render raggedRows ['\n'] zeros).2, ?_⟩
    rw [hrender _ _ _ _ ⟨by decide, by decide, by decide⟩, ← hreport]
  · exact herror _ (List.getElem_mem _) _ _ _ _ _ _ _ _ _ rfl (by decide) (by decide) rfl

end Rowwise.Machine
