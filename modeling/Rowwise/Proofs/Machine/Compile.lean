import Rowwise.Proofs.Machine.Cursor
import Rowwise.Proofs.Pattern.Constructs

/-!
# Machine — Compiling

The compiler as a machine runs it: it looks at bytes, keeps the pieces of a group as byte
positions, and cuts them out of the pattern afterwards. The main statement is that no step of it
fails, and that it gives the program and the issues that the compiler gives (`compileIssues_eq`).

One round of the scan for a closing parenthesis reads a byte. Parentheses and commas are bytes of
their own, and all bytes of other characters are passed over (`scanRound_plain`), so the rounds for
one character do what the compiler does for it. All positions that are kept stand before or after a
parenthesis or a comma: there a text can be cut.
-/

namespace Rowwise.Machine

/-! ## Groups -/

/-- A scan for the closing parenthesis of a group: how many parentheses are open, where the piece
that is read began, the position, and the pieces before. -/
structure Scan where
  depth : Nat
  start : Nat
  pos : Nat
  pieces : List (Nat × Nat)

/-- The pieces of a group by where they begin and end, where the text goes on after it, and whether
its closing parenthesis was found. -/
structure Span where
  pieces : List (Nat × Nat)
  next : Nat
  closed : Bool

/-- One round of the scan. -/
def scanRound (bytes : Bytes) (split : Bool) (scan : Scan) : Checked (Round Scan Span) := do
  if scan.pos < bytes.length then
    let byte ← item bytes scan.pos
    if byte = ascii '(' then
      .ok (.again { scan with depth := ← add scan.depth 1, pos := ← add scan.pos 1 })
    else if byte = ascii ')' then
      let depth ← sub scan.depth 1
      if depth = 0 then
        .ok (.done ⟨scan.pieces ++ [(scan.start, scan.pos)], ← add scan.pos 1, true⟩)
      else .ok (.again { scan with depth, pos := ← add scan.pos 1 })
    else if byte = ascii ',' ∧ split ∧ scan.depth = 1 then
      let pos ← add scan.pos 1
      .ok (.again { scan with start := pos, pos, pieces := scan.pieces ++ [(scan.start, scan.pos)] })
    else .ok (.again { scan with pos := ← add scan.pos 1 })
  else .ok (.done ⟨scan.pieces ++ [(scan.start, bytes.length)], bytes.length, false⟩)

/-- The group after an opening parenthesis; one that is never closed is an issue of the construct
that was opened at a byte of the text. -/
def group (text : Text) (start offset opened : Nat) (split : Bool) (issues : List Nat) :
    Checked (Span × List Nat) := do
  let bytes := Utf8.encode text
  let span ← rounds (scanRound bytes split) (bytes.length + 1) ⟨1, start, start, []⟩
  if span.closed then .ok (span, issues)
  else .ok (span, issues ++ [← add offset opened])

/-- Where some pieces begin and end, of which the first one begins here and ends there; between
neighbours stands a comma. -/
def bounds (start stop : Nat) : List Text → List (Nat × Nat)
  | [] => [(start, stop)]
  | piece :: more => (start, stop) :: bounds (stop + 1) (stop + 1 + Text.utf8Size piece) more

/-- The span of a group of which the text at `pos` is the rest of the first piece. -/
def spanOf (start pos : Nat) (pieces : List (Nat × Nat)) (group : Group) : Span :=
  ⟨pieces ++ bounds start (pos + Text.utf8Size group.first) group.more,
    pos + Text.utf8Size group.source, group.closed⟩

theorem spanOf_push (start pos : Nat) (pieces : List (Nat × Nat)) (c : Char) (group : Group) :
    spanOf start pos pieces (group.push c) = spanOf start (pos + c.utf8Size) pieces group := by
  simp only [spanOf, Group.source_push, Text.utf8Size_cons, ← Nat.add_assoc]
  simp only [Group.push, Text.utf8Size_cons, ← Nat.add_assoc]

theorem spanOf_part (start pos : Nat) (pieces : List (Nat × Nat)) (group : Group) :
    spanOf start pos pieces group.part
      = spanOf (pos + 1) (pos + 1) (pieces ++ [(start, pos)]) group := by
  have hcomma : (',' : Char).utf8Size = 1 := rfl
  simp only [spanOf, Group.source_part, Text.utf8Size_cons, hcomma, ← Nat.add_assoc]
  simp [Group.part, bounds]

section Scan

variable {text rest : Text} {pos : Nat} {split : Bool} {depth start : Nat}
  {pieces : List (Nat × Nat)}

/-- The byte of a mark is what the round is about. -/
theorem scanRound_eq {c : Char} (h : Cursor text pos (c :: rest)) (hc : c.toNat < 0x80)
    (hpos : pos < lengthBound) :
    scanRound (Utf8.encode text) split ⟨depth, start, pos, pieces⟩ =
      if c = '(' then do
        .ok (.again ⟨← add depth 1, start, pos + 1, pieces⟩)
      else if c = ')' then do
        let depth ← sub depth 1
        if depth = 0 then .ok (.done ⟨pieces ++ [(start, pos)], pos + 1, true⟩)
        else .ok (.again ⟨depth, start, pos + 1, pieces⟩)
      else if c = ',' ∧ split ∧ depth = 1 then
        .ok (.again ⟨depth, pos + 1, pos + 1, pieces ++ [(start, pos)]⟩)
      else .ok (.again ⟨depth, start, pos + 1, pieces⟩) := by
  have hmark : ∀ mark : Char, mark.toNat < 0x80 → (ascii c = ascii mark ↔ c = mark) :=
    fun mark hm => ascii_inj hc hm
  simp only [scanRound, h.lt_length, h.item_ascii hc, add_one hpos, ok_bind, if_true,
    hmark '(' (by decide), hmark ')' (by decide), hmark ',' (by decide)]

/-- **A character that is no parenthesis and cuts no piece** is passed over, byte by byte. -/
theorem scanRound_plain {c : Char} (h : Cursor text pos (c :: rest))
    (hopen : c ≠ '(') (hclose : c ≠ ')') (hcomma : c = ',' → ¬ (split ∧ depth = 1))
    (hpos : (Utf8.encode text).length < lengthBound) :
    ∀ i < c.utf8Size, scanRound (Utf8.encode text) split ⟨depth, start, pos + i, pieces⟩
      = .ok (.again ⟨depth, start, pos + (i + 1), pieces⟩) := by
  intro i hi
  obtain ⟨byte, hbyte, hitem⟩ := h.exists_item hi
  have hlength := h.add_utf8Size
  rw [Text.utf8Size_cons] at hlength
  have hmark : ∀ mark : Char, mark.toNat < 0x80 → c ≠ mark → byte ≠ ascii mark :=
    fun mark hm hne => ne_ascii_of_mem hne hm hbyte
  have hsplit : ¬ (byte = ascii ',' ∧ split ∧ depth = 1) := by
    rintro ⟨hbyte, hsplit⟩
    by_cases hc : c = ','
    · exact hcomma hc hsplit
    · exact hmark ',' (by decide) hc hbyte
  have hlt : pos + i < (Utf8.encode text).length := by omega
  have hadd : add (pos + i) 1 = .ok (pos + (i + 1)) := add_one (by omega)
  simp only [scanRound, hlt, hitem, ok_bind, if_true, hmark '(' (by decide) hopen,
    hmark ')' (by decide) hclose, hsplit, if_false, hadd]

/-- What is passed over belongs to the piece that is read. -/
theorem ends_scan_plain {c : Char} {inner : Nat} (h : Cursor text pos (c :: rest))
    (hlength : (Utf8.encode text).length < lengthBound) (hopen : c ≠ '(') (hclose : c ≠ ')')
    (hcomma : c = ',' → ¬ (split ∧ depth = 1))
    (hrest : Ends (scanRound (Utf8.encode text) split) (Text.utf8Size rest + 1)
      ⟨depth, start, pos + c.utf8Size, pieces⟩
      (spanOf start (pos + c.utf8Size) pieces (Group.scan split inner rest))) :
    Ends (scanRound (Utf8.encode text) split) (Text.utf8Size (c :: rest) + 1)
      ⟨depth, start, pos, pieces⟩
      (spanOf start pos pieces ((Group.scan split inner rest).push c)) := by
  have hrun := Ends.run (fun i => (⟨depth, start, pos + i, pieces⟩ : Scan))
    (scanRound_plain h hopen hclose hcomma hlength) hrest
  rw [spanOf_push, Text.utf8Size_cons, Nat.add_assoc]
  exact hrun

/-- **A group** is scanned as the compiler reads it. -/
theorem ends_scan (h : Cursor text pos rest) (hlength : (Utf8.encode text).length < lengthBound)
    (hdepth : depth + Text.utf8Size rest < lengthBound) :
    Ends (scanRound (Utf8.encode text) split) (Text.utf8Size rest + 1)
      ⟨depth + 1, start, pos, pieces⟩
      (spanOf start pos pieces (Group.scan split depth rest)) := by
  fun_induction Group.scan split depth rest generalizing start pos pieces with
  | case1 depth =>
    have hend : pos = (Utf8.encode text).length := h.add_utf8Size
    refine Ends.done ?_
    simp [scanRound, spanOf, bounds, hend, Group.source, Group.pieces, Text.join]
  | case2 depth rest ih =>
    rw [Text.utf8Size_cons] at hdepth
    have hsize : ('(' : Char).utf8Size = 1 := rfl
    have hlt := h.lt_length
    have hround : scanRound (Utf8.encode text) split ⟨depth + 1, start, pos, pieces⟩
        = .ok (.again ⟨depth + 1 + 1, start, pos + 1, pieces⟩) := by
      rw [scanRound_eq h (by decide) (by omega), if_pos rfl, add_one (by omega)]
      rfl
    rw [spanOf_push, Text.utf8Size_cons, hsize, Nat.add_comm 1]
    exact Ends.again hround (ih (h.next_ascii (by decide)) (by omega))
  | case3 rest =>
    have hlt := h.lt_length
    refine Ends.done ?_
    rw [scanRound_eq h (by decide) (by omega), if_neg (by decide), if_pos rfl,
      sub_of_le (by omega)]
    rfl
  | case4 depth rest ih =>
    rw [Text.utf8Size_cons] at hdepth
    have hsize : (')' : Char).utf8Size = 1 := rfl
    have hlt := h.lt_length
    have hround : scanRound (Utf8.encode text) split ⟨depth + 1 + 1, start, pos, pieces⟩
        = .ok (.again ⟨depth + 1, start, pos + 1, pieces⟩) := by
      rw [scanRound_eq h (by decide) (by omega), if_neg (by decide), if_pos rfl,
        sub_of_le (by omega)]
      rfl
    rw [spanOf_push, Text.utf8Size_cons, hsize, Nat.add_comm 1]
    exact Ends.again hround (ih (h.next_ascii (by decide)) (by omega))
  | case5 rest hsplit ih =>
    rw [Text.utf8Size_cons] at hdepth
    have hsize : (',' : Char).utf8Size = 1 := rfl
    have hlt := h.lt_length
    have hround : scanRound (Utf8.encode text) split ⟨1, start, pos, pieces⟩
        = .ok (.again ⟨1, pos + 1, pos + 1, pieces ++ [(start, pos)]⟩) := by
      rw [scanRound_eq h (by decide) (by omega), if_neg (by decide), if_neg (by decide),
        if_pos ⟨rfl, hsplit, rfl⟩]
    rw [spanOf_part, Text.utf8Size_cons, hsize, Nat.add_comm 1]
    exact Ends.again hround (ih (h.next_ascii (by decide)) (by omega))
  | case6 rest hsplit ih =>
    rw [Text.utf8Size_cons] at hdepth
    refine ends_scan_plain h hlength (by decide) (by decide) (fun _ hboth => hsplit hboth.1) ?_
    exact ih h.next (by omega)
  | case7 depth c rest hopen hclose hclose' hcomma ih =>
    rw [Text.utf8Size_cons] at hdepth
    refine ends_scan_plain h hlength hopen ?_ ?_ (ih h.next (by omega))
    · rintro rfl
      cases depth with
      | zero => exact hclose rfl rfl
      | succ depth => exact hclose' depth rfl rfl
    · rintro rfl ⟨-, hone⟩
      exact hcomma (by omega) rfl

/-- The group after a parenthesis is the compiler's group, with where its pieces stand. -/
theorem group_eq {offset opened : Nat} {issues : List Nat} (h : Cursor text start rest)
    (hlength : (Utf8.encode text).length < lengthBound)
    (hissue : offset + opened < lengthBound) :
    group text start offset opened split issues
      = .ok (spanOf start start [] (Group.scan split 0 rest),
          issues ++ Pattern.groupIssues (offset + opened) (Group.scan split 0 rest)) := by
  have hsize := h.add_utf8Size
  have hends : Ends (scanRound (Utf8.encode text) split) (Text.utf8Size rest + 1)
      ⟨1, start, start, []⟩ (spanOf start start [] (Group.scan split 0 rest)) :=
    ends_scan h hlength (by omega)
  have hadd : add offset opened = .ok (offset + opened) := add_of_lt (by omega)
  rw [group, hends _ (by omega), ok_bind, Pattern.groupIssues]
  cases hclosed : (Group.scan split 0 rest).closed with
  | true => simp [spanOf, hclosed]
  | false => simp [spanOf, hclosed, hadd]

end Scan

/-! ## Function names -/

/-- One round of the search for the end of a name. -/
def nameRound (bytes : Bytes) (pos : Nat) : Checked (Round Nat Nat) := do
  if pos < bytes.length then
    let byte ← item bytes pos
    if byteIs isNameChar byte then .ok (.again (← add pos 1)) else .ok (.done pos)
  else .ok (.done pos)

/-- Where the parenthesis stands, if a function name and a parenthesis come next. -/
def callOpen (bytes : Bytes) (start : Nat) : Checked (Option Nat) := do
  let stop ← rounds (nameRound bytes) (bytes.length + 1) start
  .ok (if start < stop ∧ bytes[stop]? = some (ascii '(') then some stop else none)

/-- Where the parenthesis of a call stands, if one begins with this byte, before `start`. -/
def callAt (bytes : Bytes) (byte : UInt8) (start : Nat) : Checked (Option Nat) :=
  if byte = ascii '@' then callOpen bytes start else .ok none

/-- The end of a name is found. -/
theorem ends_name {text rest : Text} {pos : Nat} (h : Cursor text pos rest)
    (hlength : (Utf8.encode text).length < lengthBound) :
    Ends (nameRound (Utf8.encode text)) (Text.utf8Size rest + 1) pos
      (pos + Text.utf8Size (rest.takeWhile isNameChar)) := by
  induction rest generalizing pos with
  | nil =>
    refine Ends.done ?_
    rw [nameRound, if_neg h.not_lt_length]
    rfl
  | cons c rest ih =>
    have hlt := h.lt_length
    by_cases hc : isNameChar c
    · have hascii := toNat_lt_of_isNameChar hc
      have hround : nameRound (Utf8.encode text) pos = .ok (.again (pos + 1)) := by
        have hadd := add_one (Nat.lt_trans hlt hlength)
        simp [nameRound, hlt, h.item_ascii hascii, byteIs_ascii isNameChar hascii, hc, hadd]
      rw [List.takeWhile_cons_of_pos hc, Text.utf8Size_cons, Text.utf8Size_cons,
        utf8Size_of_ascii hascii, ← Nat.add_assoc, Nat.add_comm 1]
      exact Ends.again hround (ih (h.next_ascii hascii))
    · obtain ⟨byte, hbyte, hitem⟩ := h.exists_item c.utf8Size_pos
      have hname := byteIs_of_mem (fun _ => toNat_lt_of_isNameChar) hc hbyte
      have hround : nameRound (Utf8.encode text) pos = .ok (.done pos) := by
        rw [Nat.add_zero] at hitem
        simp [nameRound, hlt, hitem, hname]
      rw [List.takeWhile_cons_of_neg hc, Text.utf8Size_cons]
      exact Ends.done hround

/-- The head of a call is found as the compiler finds it. -/
theorem callOpen_eq {text rest : Text} {pos : Nat} (h : Cursor text pos rest)
    (hlength : (Utf8.encode text).length < lengthBound) :
    callOpen (Utf8.encode text) pos
      = .ok ((callHead? rest).map fun head => pos + Text.utf8Size head.1) := by
  have hsize := h.add_utf8Size
  have hstop : Cursor text (pos + Text.utf8Size (rest.takeWhile isNameChar))
      (rest.dropWhile isNameChar) := by
    apply Cursor.append
    rwa [List.takeWhile_append_dropWhile]
  rw [callOpen, ends_name h hlength _ (by omega), ok_bind, hstop.getElem?_eq, callHead?]
  by_cases hname : rest.takeWhile isNameChar = []
  · simp [hname]
  rw [if_neg hname]
  have hpos : 0 < Text.utf8Size (rest.takeWhile isNameChar) := utf8Size_pos hname
  by_cases hopen : ∃ body, rest.dropWhile isNameChar = '(' :: body
  · obtain ⟨body, hdrop⟩ := hopen
    have hparen : (Utf8.encode ('(' :: body)).head? = some (ascii '(') := rfl
    simp only [hdrop, hparen, hpos, Nat.lt_add_right_iff_pos, true_and, if_true, Option.map_some]
  · have hparen : (Utf8.encode (rest.dropWhile isNameChar)).head? ≠ some (ascii '(') :=
      fun hparen => hopen (head?_encode_eq_some (by decide) hparen)
    rw [if_neg fun hboth => hparen hboth.2]
    split
    · rename_i body hdrop
      exact absurd ⟨body, hdrop⟩ hopen
    · rfl

/-! ## Programs -/

/-- The segments with the literal text that was read after them, if there is any. -/
def flush (literal : Text) (segments : Program) : Program :=
  if literal.isEmpty then segments else segments ++ [.literal literal]

/-- Compiles the piece of a text within some bounds as one more argument. -/
def addArgument (compile : Text → Nat → List Nat → Checked (Program × List Nat)) (text : Text)
    (offset : Nat) (found : List Program × List Nat) (bound : Nat × Nat) :
    Checked (List Program × List Nat) := do
  let piece ← cut text bound.1 bound.2
  let (arg, issues) ← compile piece (← add offset bound.1) found.2
  .ok (found.1 ++ [arg], issues)

/-- The program of a text from a position on, after the literal text and the segments that were read
before it, and the issues found so far. The text starts at byte `offset` of the pattern. `fuel`
bounds how many constructs and characters are read one after the other and one in the other. -/
def programFrom : (fuel : Nat) → (text : Text) → (offset pos : Nat) → (literal : Text) →
    (segments : Program) → (issues : List Nat) → Checked (Program × List Nat)
  | 0, _, _, _, _, _, _ => .error .endless
  | fuel + 1, text, offset, pos, literal, segments, issues => do
    let bytes := Utf8.encode text
    if pos < bytes.length then
      let byte ← item bytes pos
      let second ← add pos 1
      if byte = ascii '$' ∧ bytes[second]? = some (ascii '(') then
        let (span, issues) ← group text (← add pos 2) offset pos false issues
        let (start, stop) ← item span.pieces 0
        let selector ← cut text start stop
        programFrom fuel text offset span.next [] (flush literal segments ++ [.column selector])
          issues
      else
        match ← callAt bytes byte second with
        | some parenthesis =>
          let name ← cut text second parenthesis
          let (span, issues) ← group text (← add parenthesis 1) offset pos true issues
          let compile := fun piece offset issues => programFrom fuel piece offset 0 [] [] issues
          let (args, issues) ← span.pieces.foldlM (addArgument compile text offset) ([], issues)
          programFrom fuel text offset span.next [] (flush literal segments ++ [.call name args])
            issues
        | none =>
          let c := (← ahead text pos).headD '\x00'
          programFrom fuel text offset (← add pos (max c.utf8Size 1)) (literal ++ [c]) segments issues
    else .ok (flush literal segments, issues)

/-- The program and the issues of a pattern. -/
def compileIssues (pattern : Text) : Checked (Program × List Nat) :=
  programFrom ((Utf8.encode pattern).length + 1) pattern 0 0 [] [] []

/-- A program after literal text, of which its first segment may be the rest. -/
def afterLiteral (literal : Text) : Program → Program
  | .literal text :: rest => .literal (literal ++ text) :: rest
  | program => flush literal [] ++ program

theorem afterLiteral_nil (program : Program) : afterLiteral [] program = program := by
  unfold afterLiteral
  split <;> rfl

theorem afterLiteral_pushLiteral (literal : Text) (c : Char) (compiled : Compiled) :
    afterLiteral (literal ++ [c]) compiled.program
      = afterLiteral literal (compiled.pushLiteral c).program := by
  obtain ⟨program, issues⟩ := compiled
  unfold Compiled.pushLiteral
  dsimp only
  split
  · simp [afterLiteral]
  · rename_i hno
    rw [afterLiteral.eq_2 _ _ hno, afterLiteral]
    simp [flush]

theorem flush_eq (literal : Text) (segments : Program) :
    flush literal segments = segments ++ flush literal [] := by
  unfold flush
  split <;> simp

/-- What comes of a text after the literal text, the segments and the issues before it. -/
def after (literal : Text) (segments : Program) (issues : List Nat) (compiled : Compiled) :
    Program × List Nat :=
  (segments ++ afterLiteral literal compiled.program, issues ++ compiled.issues)

theorem after_pushLiteral (literal : Text) (segments : Program) (issues : List Nat) (c : Char)
    (compiled : Compiled) :
    after literal segments issues (compiled.pushLiteral c)
      = after (literal ++ [c]) segments issues compiled := by
  rw [after, after, afterLiteral_pushLiteral, Pattern.issues_pushLiteral]

theorem after_pushConstruct (literal : Text) (segments : Program) (issues : List Nat)
    {segment : Segment} (hsegment : ∀ text, segment ≠ .literal text) (found : List Nat)
    (compiled : Compiled) :
    after literal segments issues (compiled.pushConstruct segment found)
      = after [] (flush literal segments ++ [segment]) (issues ++ found) compiled := by
  have hliteral : afterLiteral literal (segment :: compiled.program)
      = flush literal [] ++ segment :: compiled.program := by
    rw [afterLiteral]
    rintro text rest ⟨⟩
    exact hsegment text rfl
  rw [after, after, Pattern.program_pushConstruct, Pattern.issues_pushConstruct, hliteral,
    afterLiteral_nil, flush_eq literal segments]
  simp

theorem bounds_eq (start stop : Nat) (more : List Text) :
    ∃ others, bounds start stop more = (start, stop) :: others := by
  cases more with
  | nil => exact ⟨_, rfl⟩
  | cons piece more => exact ⟨_, rfl⟩

/-- A group begins with its first piece. -/
theorem exists_source_eq (group : Group) : ∃ tail, group.source = group.first ++ tail := by
  obtain ⟨first, more, rest, closed⟩ := group
  cases more with
  | nil => exact ⟨_, rfl⟩
  | cons piece more =>
    refine ⟨',' :: Text.join [','] (piece :: more) ++ if closed then [')'] else [], ?_⟩
    simp [Group.source, Group.pieces, Text.join]

/-- How the pieces of a call are compiled by themselves. -/
def Compiles (compile : Text → Nat → List Nat → Checked (Program × List Nat))
    (pieces : List Text) : Prop :=
  ∀ piece ∈ pieces, ∀ offset issues, offset + Text.utf8Size piece < lengthBound →
    compile piece offset issues = .ok (after [] [] issues (Pattern.compileFrom offset piece))

section Arguments

variable {compile : Text → Nat → List Nat → Checked (Program × List Nat)} {text : Text}
  {offset start : Nat} {piece tail : Text} {more : List Text}

theorem addArgument_eq (hcompile : Compiles compile [piece])
    (h : Cursor text start (piece ++ tail))
    (hlength : offset + (Utf8.encode text).length < lengthBound) (args : List Program)
    (issues : List Nat) :
    addArgument compile text offset (args, issues) (start, start + Text.utf8Size piece)
      = .ok (args ++ [(Pattern.compileFrom (offset + start) piece).program],
          issues ++ (Pattern.compileFrom (offset + start) piece).issues) := by
  have hsize := h.add_utf8Size
  rw [Text.utf8Size_append] at hsize
  have hadd : add offset start = .ok (offset + start) := add_of_lt (by omega)
  have hpiece := hcompile piece List.mem_cons_self (offset + start) issues (by omega)
  rw [after, afterLiteral_nil] at hpiece
  simp only [addArgument, h.cut_eq, hadd, ok_bind, hpiece, List.nil_append]

/-- **Arguments** are cut out and compiled one after the other. -/
theorem foldlM_addArgument (hcompile : Compiles compile (piece :: more))
    (h : Cursor text start (Text.join [','] (piece :: more) ++ tail))
    (hlength : offset + (Utf8.encode text).length < lengthBound) (args : List Program)
    (issues : List Nat) :
    (bounds start (start + Text.utf8Size piece) more).foldlM (addArgument compile text offset)
        (args, issues)
      = .ok (args ++ (Pattern.compileArgs (offset + start) (piece :: more)).1,
          issues ++ (Pattern.compileArgs (offset + start) (piece :: more)).2) := by
  induction more generalizing start piece args issues with
  | nil =>
    rw [bounds, List.foldlM_cons, addArgument_eq hcompile h hlength, Pattern.compileArgs_cons,
      Pattern.compileArgs_nil, List.append_nil]
    rfl
  | cons second more ih =>
    have hjoin : Text.join [','] (piece :: second :: more) ++ tail
        = piece ++ ',' :: (Text.join [','] (second :: more) ++ tail) := by
      simp [Text.join]
    rw [hjoin] at h
    have hsecond : Cursor text (start + Text.utf8Size piece + 1)
        (Text.join [','] (second :: more) ++ tail) := h.append.next_ascii (by decide)
    have hpiece : Compiles compile [piece] := fun part hpart =>
      hcompile part (List.mem_singleton.mp hpart ▸ List.mem_cons_self)
    rw [bounds, List.foldlM_cons, addArgument_eq hpiece h hlength, ok_bind,
      ih (fun part hpart => hcompile part (List.mem_cons_of_mem _ hpart)) hsecond,
      Pattern.compileArgs_cons (offset + start)]
    simp only [List.append_assoc, List.singleton_append, Nat.add_assoc]

end Arguments

/-! ## The loop over a text -/

section Program

variable {text rest : Text} {offset pos : Nat} {fuel : Nat} {literal : Text} {segments : Program}
  {issues : List Nat}

theorem programFrom_nil (h : Cursor text pos []) :
    programFrom (fuel + 1) text offset pos literal segments issues
      = .ok (flush literal segments, issues) := by
  rw [programFrom, if_neg h.not_lt_length]

theorem programFrom_column {body : Text} (h : Cursor text pos ('$' :: '(' :: body))
    (hlength : offset + (Utf8.encode text).length < lengthBound) :
    programFrom (fuel + 1) text offset pos literal segments issues
      = programFrom fuel text offset
          (pos + 2 + Text.utf8Size (Group.scan false 0 body).source) []
          (flush literal segments ++ [.column (Group.scan false 0 body).first])
          (issues ++ Pattern.groupIssues (offset + pos) (Group.scan false 0 body)) := by
  have hparen : Cursor text (pos + 1) ('(' :: body) := h.next_ascii (by decide)
  have hbody : Cursor text (pos + 2) body := hparen.next_ascii (by decide)
  have hsize := hbody.add_utf8Size
  have hsecond : (Utf8.encode text)[pos + 1]? = some (ascii '(') := hparen.getElem?_eq
  have hgroup : group text (pos + 2) offset pos false issues
      = .ok (spanOf (pos + 2) (pos + 2) [] (Group.scan false 0 body),
          issues ++ Pattern.groupIssues (offset + pos) (Group.scan false 0 body)) :=
    group_eq hbody (by omega) (by omega)
  -- the first piece stands at the start of the group
  obtain ⟨others, hbounds⟩ := bounds_eq (pos + 2)
    (pos + 2 + Text.utf8Size (Group.scan false 0 body).first) (Group.scan false 0 body).more
  have hcut : cut text (pos + 2) (pos + 2 + Text.utf8Size (Group.scan false 0 body).first)
      = .ok (Group.scan false 0 body).first := by
    obtain ⟨tail, htail⟩ := exists_source_eq (Group.scan false 0 body)
    have hsplit := Group.source_append_rest false 0 body
    rw [htail, List.append_assoc] at hsplit
    rw [← hsplit] at hbody
    exact hbody.cut_eq
  have hone : add pos 1 = .ok (pos + 1) := add_one (by omega)
  have htwo : add pos 2 = .ok (pos + 2) := add_of_lt (by omega)
  rw [programFrom, if_pos h.lt_length, h.item_ascii (by decide), ok_bind, hone, ok_bind,
    if_pos ⟨rfl, hsecond⟩, htwo, ok_bind, hgroup, ok_bind]
  simp only [spanOf, List.nil_append, hbounds]
  simp only [item, List.getElem?_cons_zero, ok_bind, hcut]

theorem programFrom_call {name body : Text}
    (hne : name ≠ []) (hname : ∀ c ∈ name, isNameChar c)
    (h : Cursor text pos ('@' :: name ++ '(' :: body))
    (hlength : offset + (Utf8.encode text).length < lengthBound)
    (hcompile : Compiles (fun piece offset issues => programFrom fuel piece offset 0 [] [] issues)
      (Group.scan true 0 body).pieces) :
    programFrom (fuel + 1) text offset pos literal segments issues
      = programFrom fuel text offset
          (pos + Text.utf8Size name + 2 + Text.utf8Size (Group.scan true 0 body).source) []
          (flush literal segments ++ [.call name (Pattern.compileArgs
            (offset + pos + Text.utf8Size name + 2) (Group.scan true 0 body).pieces).1])
          (issues ++ (Pattern.groupIssues (offset + pos) (Group.scan true 0 body) ++
            (Pattern.compileArgs (offset + pos + Text.utf8Size name + 2)
              (Group.scan true 0 body).pieces).2)) := by
  have hat : Cursor text (pos + 1) (name ++ '(' :: body) := h.next_ascii (by decide)
  have hparen : Cursor text (pos + 1 + Text.utf8Size name) ('(' :: body) := hat.append
  have hbody : Cursor text (pos + 1 + Text.utf8Size name + 1) body :=
    hparen.next_ascii (by decide)
  have hsize := hbody.add_utf8Size
  have hopen : callOpen (Utf8.encode text) (pos + 1)
      = .ok (some (pos + 1 + Text.utf8Size name)) := by
    rw [callOpen_eq hat (by omega), Pattern.callHead?_append hne hname]
    rfl
  have hgroup : group text (pos + 1 + Text.utf8Size name + 1) offset pos true issues
      = .ok (spanOf (pos + 1 + Text.utf8Size name + 1) (pos + 1 + Text.utf8Size name + 1) []
          (Group.scan true 0 body),
        issues ++ Pattern.groupIssues (offset + pos) (Group.scan true 0 body)) :=
    group_eq hbody (by omega) (by omega)
  have hargs : Cursor text (pos + 1 + Text.utf8Size name + 1)
      (Text.join [','] (Group.scan true 0 body).pieces ++
        ((if (Group.scan true 0 body).closed then [')'] else []) ++
          (Group.scan true 0 body).rest)) := by
    have hsplit := Group.source_append_rest true 0 body
    rw [Group.source, List.append_assoc] at hsplit
    rwa [hsplit]
  have hone : add pos 1 = .ok (pos + 1) := add_one (by omega)
  have hstart : add (pos + 1 + Text.utf8Size name) 1 = .ok (pos + 1 + Text.utf8Size name + 1) :=
    add_one (by omega)
  have hfold := foldlM_addArgument hcompile hargs hlength []
    (issues ++ Pattern.groupIssues (offset + pos) (Group.scan true 0 body))
  have hoffset : offset + (pos + 1 + Text.utf8Size name + 1)
      = offset + pos + Text.utf8Size name + 2 := by omega
  have hnext : pos + 1 + Text.utf8Size name + 1 = pos + Text.utf8Size name + 2 := by omega
  rw [hoffset, List.nil_append] at hfold
  have hdollar : ¬ (ascii '@' = ascii '$' ∧ (Utf8.encode text)[pos + 1]? = some (ascii '(')) :=
    fun hboth => absurd hboth.1 (by decide)
  rw [programFrom, if_pos h.lt_length, h.item_ascii (by decide), ok_bind, hone, ok_bind,
    if_neg hdollar, callAt, if_pos rfl, hopen, ok_bind]
  dsimp only
  rw [hat.cut_eq, ok_bind, hstart, ok_bind, hgroup, ok_bind]
  dsimp only [spanOf]
  rw [List.nil_append, hfold, ok_bind, hnext, List.append_assoc]
  rfl

/-- Where no construct begins, a character is literal text. -/
theorem programFrom_literal {c : Char} (h : Cursor text pos (c :: rest))
    (hno : ∀ construct body, ¬ Pattern.Opens construct body (c :: rest))
    (hlength : offset + (Utf8.encode text).length < lengthBound) :
    programFrom (fuel + 1) text offset pos literal segments issues
      = programFrom fuel text offset (pos + c.utf8Size) (literal ++ [c]) segments issues := by
  have hsize := h.next.add_utf8Size
  have hpos := c.utf8Size_pos
  obtain ⟨byte, hbyte, hitem⟩ := h.exists_item hpos
  rw [Nat.add_zero] at hitem
  have hascii : ∀ mark : Char, mark.toNat < 0x80 → byte = ascii mark → c = mark := by
    intro mark hmark heq
    exact Classical.byContradiction fun hne => ne_ascii_of_mem hne hmark hbyte heq
  have hdollar : ¬ (byte = ascii '$' ∧ (Utf8.encode text)[pos + 1]? = some (ascii '(')) := by
    rintro ⟨heq, hparen⟩
    obtain rfl := hascii '$' (by decide) heq
    rw [(h.next_ascii (by decide)).getElem?_eq] at hparen
    obtain ⟨body, rfl⟩ := head?_encode_eq_some (by decide) hparen
    exact hno .column body (.column body)
  have hcall : callAt (Utf8.encode text) byte (pos + 1) = .ok none := by
    rw [callAt]
    split
    · rename_i heq
      obtain rfl := hascii '@' (by decide) heq
      have hnone : callHead? rest = none := by
        cases hhead : callHead? rest with
        | none => rfl
        | some head =>
          obtain ⟨hne, hname, rfl⟩ := Pattern.callHead?_eq_some hhead
          exact absurd (.call head.1 head.2 hne hname) (hno .call head.2)
      rw [callOpen_eq (h.next_ascii (by decide)) (by omega), hnone]
      rfl
    · rfl
  have hone : add pos 1 = .ok (pos + 1) := add_one (by omega)
  have hmax : max c.utf8Size 1 = c.utf8Size := Nat.max_eq_left hpos
  have hadd : add pos c.utf8Size = .ok (pos + c.utf8Size) := add_of_lt (by omega)
  rw [programFrom, if_pos h.lt_length, hitem, ok_bind, hone, ok_bind, if_neg hdollar, hcall,
    ok_bind]
  dsimp only
  rw [h.ahead_eq, ok_bind, List.headD_cons, hmax, hadd, ok_bind]

/-- **The loop over a text** compiles what is ahead of its cursor. -/
theorem programFrom_eq (rest : Text) {fuel : Nat} {text : Text} {pos : Nat} {literal : Text}
    {segments : Program} {issues : List Nat} (hfuel : rest.length < fuel)
    (h : Cursor text pos rest) (hlength : offset + (Utf8.encode text).length < lengthBound) :
    programFrom fuel text offset pos literal segments issues
      = .ok (after literal segments issues (Pattern.compileFrom (offset + pos) rest)) := by
  induction rest using Pattern.induct generalizing fuel text offset pos literal segments issues with
  | nil =>
    obtain ⟨fuel, rfl⟩ := Nat.exists_eq_add_of_lt hfuel
    rw [programFrom_nil h, Pattern.compileFrom_nil, after, flush_eq]
    simp [afterLiteral]
  | column body ih =>
    obtain ⟨fuel, rfl⟩ : ∃ n, fuel = n + 1 := ⟨fuel - 1, by omega⟩
    have hrest := Group.rest_length_le false 0 body
    simp only [List.length_cons] at hfuel
    have hnext : Cursor text (pos + 2 + Text.utf8Size (Group.scan false 0 body).source)
        (Group.scan false 0 body).rest := by
      have hbody : Cursor text (pos + 2) body :=
        (h.next_ascii (by decide)).next_ascii (by decide)
      rw [← Group.source_append_rest false 0 body] at hbody
      exact hbody.append
    rw [programFrom_column h hlength, ih (by omega) hnext hlength, Pattern.compileFrom_column,
      after_pushConstruct _ _ _ (by simp)]
    simp only [Nat.add_assoc]
  | call name body hne hname ihargs ih =>
    obtain ⟨fuel, rfl⟩ : ∃ n, fuel = n + 1 := ⟨fuel - 1, by omega⟩
    have hrest := Group.rest_length_le true 0 body
    simp only [List.length_append, List.length_cons] at hfuel
    have hcompile : Compiles
        (fun piece offset issues => programFrom fuel piece offset 0 [] [] issues)
        (Group.scan true 0 body).pieces := by
      intro piece hpiece offset issues hpieceLength
      have hspan := Group.span_pieces_le true 0 body
      have hlt := Pattern.length_lt_span hpiece
      rw [← length_encode] at hpieceLength
      exact ihargs piece hpiece (by omega) (Cursor.start piece) hpieceLength
    have hnext : Cursor text (pos + Text.utf8Size name + 2
        + Text.utf8Size (Group.scan true 0 body).source) (Group.scan true 0 body).rest := by
      have hname : Cursor text (pos + 1) (name ++ '(' :: body) := h.next_ascii (by decide)
      have hbody : Cursor text (pos + 1 + Text.utf8Size name + 1) body :=
        hname.append.next_ascii (by decide)
      rw [← Group.source_append_rest true 0 body] at hbody
      have hpos : pos + Text.utf8Size name + 2 = pos + 1 + Text.utf8Size name + 1 := by omega
      rw [hpos]
      exact hbody.append
    rw [programFrom_call hne hname h hlength hcompile, ih (by omega) hnext hlength,
      Pattern.compileFrom_call _ hne hname, after_pushConstruct _ _ _ (by simp)]
    simp only [Nat.add_assoc]
  | literal c rest hno ih =>
    obtain ⟨fuel, rfl⟩ : ∃ n, fuel = n + 1 := ⟨fuel - 1, by omega⟩
    simp only [List.length_cons] at hfuel
    rw [programFrom_literal h hno hlength, ih (by omega) h.next hlength,
      Pattern.compileFrom_literal _ hno, after_pushLiteral]
    simp only [Nat.add_assoc]

end Program

/-- **Compiling does not fail**: on a machine it gives the program and the issues. -/
theorem compileIssues_eq {pattern : Text} (h : Text.utf8Size pattern < lengthBound) :
    compileIssues pattern = .ok (Pattern.compile pattern, Pattern.diagnose pattern) := by
  have hfuel := length_le_utf8Size pattern
  rw [← length_encode] at h hfuel
  rw [compileIssues, programFrom_eq pattern (by omega) (Cursor.start pattern) (by omega), after,
    afterLiteral_nil]
  rfl

end Rowwise.Machine
