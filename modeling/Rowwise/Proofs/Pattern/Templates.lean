import Mathlib.Data.List.TakeWhile
import Rowwise.Proofs.Pattern.Calls
import Rowwise.Proofs.Text.Runs

/-!
# Pattern — Templates

What the replacement text of `replace` means, stated as a relation between a text and its pieces
(`Template.Reads`), and how far putting braces around numbers before the text is read gives that
meaning. The braces of a number are read as such unless an open brace comes before them: the next
closing brace then ends what is open, and not the number. This is the only way in which a template
is read as another one (`Template.pieces_braceNumbers_iff`).

Both halves are about the first piece of a text: if nothing open takes in a number, reading gives
that piece and goes on behind it (`First.pieces_braceNumbers`), and else it gives another piece
(`First.pieces_braceNumbers_ne`).
-/

namespace Rowwise

namespace Template

open Rowwise.Text (stops_dropWhile takeWhile_append_of_stops dropWhile_append_of_stops)

variable {text rest inner run : Text} {piece : TemplatePiece} {template : List TemplatePiece}
  {c : Char}

/-! ## Runs of characters -/

/-- The longest run of characters of a kind, and the text after it. -/
structure Run (kind : Char → Bool) (run rest : Text) : Prop where
  ne_nil : run ≠ []
  within : ∀ c ∈ run, kind c
  ends : ∀ c ∈ rest.head?, ¬ kind c

section Run

variable {kind : Char → Bool}

theorem run_takeWhile (hc : kind c) (rest : Text) :
    Run kind ((c :: rest).takeWhile kind) ((c :: rest).dropWhile kind) where
  ne_nil := by
    rw [List.takeWhile_cons_of_pos hc]
    exact List.cons_ne_nil _ _
  within _ hmem := List.mem_takeWhile_imp hmem
  ends := stops_dropWhile kind (c :: rest)

end Run

/-! ## The meaning of a template -/

/-- A dollar sign before the text is more than itself. -/
inductive Starts : Text → Prop
  | dollar {rest : Text} : Starts ('$' :: rest)
  | brace {rest : Text} (h : '\x7d' ∈ rest) : Starts ('\x7b' :: rest)
  | name {c : Char} {rest : Text} (h : isNameChar c) : Starts (c :: rest)

/-- The first piece of a text, and the text after it: a doubled dollar sign is one; what stands in
braces after a dollar sign refers to a group; so does the longest run of digits, whatever follows
it, and the longest name; anything else is itself. -/
inductive First : Text → TemplatePiece → Text → Prop
  | doubled {rest : Text} : First ('$' :: '$' :: rest) (.char '$') rest
  | braced {inner rest : Text} (h : '\x7d' ∉ inner) :
      First ('$' :: '\x7b' :: (inner ++ '\x7d' :: rest)) (.group (refOf inner)) rest
  | number {digits rest : Text} (h : Run Char.isDigit digits rest) :
      First ('$' :: (digits ++ rest)) (.group (refOf digits)) rest
  | name {name rest : Text} (h : Run isNameChar name rest)
      (hletter : ∀ c ∈ name.head?, ¬ c.isDigit) :
      First ('$' :: (name ++ rest)) (.group (refOf name)) rest
  | lone {rest : Text} (h : ¬ Starts rest) : First ('$' :: rest) (.char '$') rest
  | plain {c : Char} {rest : Text} (h : c ≠ '$') : First (c :: rest) (.char c) rest

/-- The pieces that a text means, from left to right. -/
inductive Reads : Text → List TemplatePiece → Prop
  | nil : Reads [] []
  | cons {text rest : Text} {piece : TemplatePiece} {template : List TemplatePiece}
      (hfirst : First text piece rest) (hrest : Reads rest template) :
      Reads text (piece :: template)

/-- Some dollar sign that is not one of two stands before a digit. -/
inductive Numbered : Text → Prop
  | here {d : Char} {rest : Text} (hd : d.isDigit) : Numbered ('$' :: d :: rest)
  | doubled {rest : Text} (h : Numbered rest) : Numbered ('$' :: '$' :: rest)
  | lone {c : Char} {rest : Text} (hc : c ≠ '$') (h : Numbered (c :: rest)) :
      Numbered ('$' :: c :: rest)
  | plain {c : Char} {rest : Text} (hc : c ≠ '$') (h : Numbered rest) : Numbered (c :: rest)

/-- If the text opens a brace, there is no number up to the next closing one. -/
def Intact (text : Text) : Prop :=
  ∀ inner, text = '$' :: '\x7b' :: inner → ¬ Numbered (inner.takeWhile (· ≠ '\x7d'))

/-- No brace that is read as an opening one takes in a number. -/
inductive Undisturbed : Text → Prop
  | nil : Undisturbed []
  | cons {text rest : Text} {piece : TemplatePiece} (hfirst : First text piece rest)
      (hintact : Intact text) (hrest : Undisturbed rest) : Undisturbed text

/-! ## References -/

theorem not_isDigit_dollar : ¬ '$'.isDigit := by
  decide

/-- A digit is one of the characters of names. -/
theorem isNameChar_of_isDigit (h : c.isDigit) : isNameChar c := by
  simp [isNameChar, Char.isAlphanum, h]

theorem forall_ne_of_not_mem (h : '\x7d' ∉ inner) :
    ∀ c ∈ inner, decide (c ≠ '\x7d') = true :=
  fun _ hc => decide_eq_true fun heq => h (heq ▸ hc)

/-- The text up to the first closing brace. -/
theorem takeWhile_inner (h : '\x7d' ∉ inner) (rest : Text) :
    (inner ++ '\x7d' :: rest).takeWhile (· ≠ '\x7d') = inner :=
  takeWhile_append_of_stops (forall_ne_of_not_mem h) (by simp)

theorem dropWhile_inner (h : '\x7d' ∉ inner) (rest : Text) :
    (inner ++ '\x7d' :: rest).dropWhile (· ≠ '\x7d') = '\x7d' :: rest :=
  dropWhile_append_of_stops (forall_ne_of_not_mem h) (by simp)

theorem ref?_braced (h : '\x7d' ∉ inner) (rest : Text) :
    ref? ('\x7b' :: (inner ++ '\x7d' :: rest)) = some (refOf inner, rest) := by
  simp only [ref?, if_true, dropWhile_inner h, takeWhile_inner h]

/-- After an open brace there is a reference to what is in it, or none. -/
theorem ref?_open (inner : Text) :
    ref? ('\x7b' :: inner) = none ∨
      ∃ rest, ref? ('\x7b' :: inner) = some (refOf (inner.takeWhile (· ≠ '\x7d')), rest) := by
  simp only [ref?, if_true]
  split
  · exact .inr ⟨_, rfl⟩
  · exact .inl rfl

theorem ref?_run (h : Run isNameChar run rest) :
    ref? (run ++ rest) = some (refOf run, rest) := by
  obtain ⟨c, more, rfl⟩ := List.exists_cons_of_ne_nil h.ne_nil
  have hbrace : c ≠ '\x7b' := by
    rintro rfl
    exact absurd (h.within _ List.mem_cons_self) (by decide)
  have htake := takeWhile_append_of_stops h.within h.ends
  have hdrop := dropWhile_append_of_stops h.within h.ends
  rw [List.cons_append] at htake hdrop ⊢
  simp only [ref?, if_neg hbrace, htake, hdrop]

/-- There is no reference where nothing starts one. -/
theorem ref?_of_not_starts (h : ¬ Starts text) : ref? text = none := by
  cases text with
  | nil => rfl
  | cons c rest =>
    rw [ref?]
    split
    · rename_i hc
      subst hc
      have hopen : '\x7d' ∉ rest := fun hmem => h (.brace hmem)
      rw [List.dropWhile_eq_nil_iff.mpr (forall_ne_of_not_mem hopen)]
    · have hname : ¬ isNameChar c := fun hc => h (.name hc)
      rw [List.takeWhile_cons_of_neg hname]

/-- A dollar sign before the text neither doubles nor starts a number. -/
def Quiet (text : Text) : Prop :=
  ∀ c ∈ text.head?, c ≠ '$' ∧ ¬ c.isDigit

theorem quiet_nil : Quiet [] := by
  simp [Quiet]

theorem quiet_cons : Quiet (c :: text) ↔ c ≠ '$' ∧ ¬ c.isDigit := by
  simp [Quiet]

theorem Quiet.append (h : Quiet text) (hrest : Quiet rest) : Quiet (text ++ rest) := by
  cases text with
  | nil => exact hrest
  | cons c more => exact h

theorem quiet_of_takeWhile_eq_nil (hdollar : ∀ more, text ≠ '$' :: more)
    (hdigits : text.takeWhile Char.isDigit = []) : Quiet text := by
  cases text with
  | nil => exact quiet_nil
  | cons c more =>
    refine quiet_cons.mpr ⟨fun hc => hdollar more (hc ▸ rfl), fun hc => ?_⟩
    rw [List.takeWhile_cons_of_pos hc] at hdigits
    exact List.cons_ne_nil _ _ hdigits

theorem quiet_of_not_starts (h : ¬ Starts text) : Quiet text := by
  cases text with
  | nil => exact quiet_nil
  | cons c more =>
    refine quiet_cons.mpr ⟨fun hc => h (hc ▸ .dollar), fun hc => ?_⟩
    exact h (.name (isNameChar_of_isDigit hc))

theorem Run.quiet (h : Run isNameChar run rest) (hletter : ∀ c ∈ run.head?, ¬ c.isDigit) :
    Quiet (run ++ rest) := by
  obtain ⟨c, more, rfl⟩ := List.exists_cons_of_ne_nil h.ne_nil
  refine quiet_cons.mpr ⟨?_, hletter c rfl⟩
  rintro rfl
  exact absurd (h.within '$' List.mem_cons_self) (by decide)

/-! ## One meaning -/

/-- Every text but the empty one has a first piece. -/
theorem exists_first (c : Char) (text : Text) : ∃ piece rest, First (c :: text) piece rest := by
  by_cases hc : c = '$'
  · subst hc
    by_cases hstarts : Starts text
    · cases hstarts with
      | dollar => exact ⟨_, _, .doubled⟩
      | brace h =>
        obtain ⟨inner, rest, rfl, hinner⟩ := List.eq_append_cons_of_mem h
        exact ⟨_, _, .braced hinner⟩
      | @name d more hname =>
        by_cases hd : d.isDigit
        · have hfirst := First.number (run_takeWhile hd more)
          rw [List.takeWhile_append_dropWhile] at hfirst
          exact ⟨_, _, hfirst⟩
        · have hletter : ∀ e ∈ ((d :: more).takeWhile isNameChar).head?, ¬ e.isDigit := by
            rw [List.takeWhile_cons_of_pos hname]
            rintro e ⟨⟩
            exact hd
          have hfirst := First.name (run_takeWhile hname more) hletter
          rw [List.takeWhile_append_dropWhile] at hfirst
          exact ⟨_, _, hfirst⟩
    · exact ⟨_, _, .lone hstarts⟩
  · exact ⟨_, _, .plain hc⟩

theorem First.length_lt (h : First text piece rest) : rest.length < text.length := by
  cases h <;> simp only [List.length_cons, List.length_append] <;> omega

theorem exists_reads (text : Text) : ∃ template, Reads text template := by
  induction hlength : text.length using Nat.strong_induction_on generalizing text with
  | _ length ih =>
    cases text with
    | nil => exact ⟨[], .nil⟩
    | cons c more =>
      obtain ⟨piece, rest, hfirst⟩ := exists_first c more
      obtain ⟨template, hrest⟩ := ih rest.length (hlength ▸ hfirst.length_lt) rest rfl
      exact ⟨piece :: template, .cons hfirst hrest⟩

/-- The first piece as it is found: digits are looked for before names. -/
def next (text : Text) : Option (TemplatePiece × Text) :=
  match text with
  | [] => none
  | '$' :: '$' :: rest => some (.char '$', rest)
  | '$' :: rest =>
    match rest.takeWhile Char.isDigit with
    | [] => some ((ref? rest).elim (.char '$', rest) fun (ref, after) => (.group ref, after))
    | digits => some (.group (refOf digits), rest.dropWhile Char.isDigit)
  | c :: rest => some (.char c, rest)

theorem next_quiet (h : Quiet text) :
    next ('$' :: text) =
      some ((ref? text).elim (.char '$', text) fun (ref, after) => (.group ref, after)) := by
  cases text with
  | nil => rfl
  | cons c more =>
    obtain ⟨hdollar, hdigit⟩ := quiet_cons.mp h
    rw [next, List.takeWhile_cons_of_neg hdigit]
    rintro rest ⟨⟩
    exact hdollar rfl

theorem First.next_eq (h : First text piece rest) : next text = some (piece, rest) := by
  cases h with
  | doubled => rfl
  | braced h => rw [next_quiet (quiet_cons.mpr (by decide)), ref?_braced h, Option.elim_some]
  | number h =>
    have htake := takeWhile_append_of_stops h.within h.ends
    have hdrop := dropWhile_append_of_stops h.within h.ends
    obtain ⟨d, more, rfl⟩ := List.exists_cons_of_ne_nil h.ne_nil
    rw [next, htake, hdrop]
    rintro rest ⟨⟩
    exact not_isDigit_dollar (h.within '$' List.mem_cons_self)
  | name h hletter => rw [next_quiet (h.quiet hletter), ref?_run h, Option.elim_some]
  | lone h => rw [next_quiet (quiet_of_not_starts h), ref?_of_not_starts h, Option.elim_none]
  | plain h =>
    rw [next]
    · exact fun _ hc _ => h hc
    · exact fun hc => h hc

/-- **The first piece is one only**, and so is what comes after it. -/
theorem First.unique {piece' : TemplatePiece} {rest' : Text} (h : First text piece rest)
    (h' : First text piece' rest') : piece = piece' ∧ rest = rest' := by
  have hsame := h.next_eq.symm.trans h'.next_eq
  simpa only [Option.some.injEq, Prod.mk.injEq] using hsame

theorem first_iff_next_eq : First text piece rest ↔ next text = some (piece, rest) := by
  refine ⟨First.next_eq, fun h => ?_⟩
  cases text with
  | nil => cases h
  | cons c more =>
    obtain ⟨piece', rest', hfirst⟩ := exists_first c more
    have hsame := hfirst.next_eq.symm.trans h
    simp only [Option.some.injEq, Prod.mk.injEq] at hsame
    obtain ⟨rfl, rfl⟩ := hsame
    exact hfirst

/-- A text has one meaning. -/
theorem Reads.unique {other : List TemplatePiece} (h : Reads text template)
    (hother : Reads text other) : other = template := by
  induction h generalizing other with
  | nil =>
    cases hother with
    | nil => rfl
    | cons hfirst _ => cases hfirst
  | cons hfirst _ ih =>
    cases hother with
    | nil => cases hfirst
    | cons hfirst' hrest' =>
      obtain ⟨rfl, rfl⟩ := hfirst'.unique hfirst
      rw [ih hrest']

/-! ## Braces around numbers -/

theorem Numbered.dollar (h : Numbered text) (hquiet : Quiet text) : Numbered ('$' :: text) := by
  cases text with
  | nil => cases h
  | cons c more => exact .lone (quiet_cons.mp hquiet).1 h

theorem braceNumbers_nil : braceNumbers [] = [] := by
  rw [braceNumbers]

theorem braceNumbers_doubled (text : Text) :
    braceNumbers ('$' :: '$' :: text) = '$' :: '$' :: braceNumbers text := by
  rw [braceNumbers]

theorem braceNumbers_plain (hc : c ≠ '$') (text : Text) :
    braceNumbers (c :: text) = c :: braceNumbers text := by
  rw [braceNumbers]
  · exact fun _ h _ => hc h
  · exact hc

theorem braceNumbers_quiet (h : Quiet text) :
    braceNumbers ('$' :: text) = '$' :: braceNumbers text := by
  cases text with
  | nil => simp [braceNumbers]
  | cons c more =>
    obtain ⟨hdollar, hdigit⟩ := quiet_cons.mp h
    rw [braceNumbers, List.takeWhile_cons_of_neg hdigit]
    rintro rest ⟨⟩
    exact hdollar rfl

theorem braceNumbers_number (h : Run Char.isDigit run rest) :
    braceNumbers ('$' :: (run ++ rest)) = '$' :: '\x7b' :: (run ++ '\x7d' :: braceNumbers rest) := by
  have htake := takeWhile_append_of_stops h.within h.ends
  have hdrop := dropWhile_append_of_stops h.within h.ends
  obtain ⟨d, more, rfl⟩ := List.exists_cons_of_ne_nil h.ne_nil
  rw [braceNumbers, htake, hdrop]
  · rfl
  · rintro rest ⟨⟩
    exact not_isDigit_dollar (h.within '$' List.mem_cons_self)

theorem exists_braceNumbers_digit {d : Char} (hd : d.isDigit) (text : Text) :
    ∃ digits after, (∀ c ∈ digits, c.isDigit) ∧
      braceNumbers ('$' :: d :: text) = '$' :: '\x7b' :: (digits ++ '\x7d' :: after) := by
  have hrun := run_takeWhile hd text
  have hbrace := braceNumbers_number hrun
  rw [List.takeWhile_append_dropWhile] at hbrace
  exact ⟨_, _, hrun.within, hbrace⟩

/-- What a text starts with is left in front. -/
theorem head?_braceNumbers (text : Text) : (braceNumbers text).head? = text.head? := by
  fun_induction braceNumbers text <;> rfl

theorem braceNumbers_append_of_not_mem (h : '$' ∉ run) (rest : Text) :
    braceNumbers (run ++ rest) = run ++ braceNumbers rest := by
  induction run with
  | nil => rfl
  | cons c more ih =>
    obtain ⟨hc, hmore⟩ := not_or.mp (mt List.mem_cons.mpr h)
    rw [List.cons_append, braceNumbers_plain (Ne.symm hc), ih hmore, List.cons_append]

/-- A text without numbers stays as it is, whatever quiet text comes after it. -/
theorem braceNumbers_append_of_not_numbered (h : ¬ Numbered text) (hrest : Quiet rest) :
    braceNumbers (text ++ rest) = text ++ braceNumbers rest := by
  fun_induction braceNumbers text with
  | case1 => rfl
  | case2 text ih =>
    have hmore : ¬ Numbered text := fun hn => h (.doubled hn)
    simp only [List.cons_append, braceNumbers_doubled, ih hmore]
  | case3 text hdollar _ hdigits ih =>
    have hquiet : Quiet text := quiet_of_takeWhile_eq_nil hdollar hdigits
    have hmore : ¬ Numbered text := fun hn => h (hn.dollar hquiet)
    rw [List.cons_append, braceNumbers_quiet (hquiet.append hrest), ih hmore, List.cons_append]
  | case4 text hdollar _ hdigits ih =>
    refine absurd ?_ h
    cases text with
    | nil => exact absurd rfl hdigits
    | cons d more =>
      by_cases hd : d.isDigit
      · exact .here hd
      · exact absurd (List.takeWhile_cons_of_neg hd) hdigits
  | case5 c text hdoubled hc ih =>
    have hmore : ¬ Numbered text := fun hn => h (.plain hc hn)
    rw [List.cons_append, braceNumbers_plain hc, ih hmore, List.cons_append]

/-- A text with numbers has a brace put before the first of them. -/
theorem Numbered.exists_braceNumbers (h : Numbered text) (rest : Text) :
    ∃ front d more digits after, text = front ++ '$' :: d :: more ∧ d.isDigit ∧
      (∀ c ∈ digits, c.isDigit) ∧
      braceNumbers (text ++ rest) = front ++ '$' :: '\x7b' :: (digits ++ '\x7d' :: after) := by
  induction h with
  | @here d more hd =>
    obtain ⟨digits, after, hdigits, hbrace⟩ := exists_braceNumbers_digit hd (more ++ rest)
    exact ⟨[], d, more, digits, after, rfl, hd, hdigits, hbrace⟩
  | doubled _ ih =>
    obtain ⟨front, d, more, digits, after, rfl, hd, hdigits, hbrace⟩ := ih
    refine ⟨'$' :: '$' :: front, d, more, digits, after, rfl, hd, hdigits, ?_⟩
    simp only [List.cons_append, braceNumbers_doubled] at hbrace ⊢
    rw [hbrace]
  | @lone c text hc _ ih =>
    by_cases hd : c.isDigit
    · obtain ⟨digits, after, hdigits, hbrace⟩ := exists_braceNumbers_digit hd (text ++ rest)
      exact ⟨[], c, text, digits, after, rfl, hd, hdigits, hbrace⟩
    · obtain ⟨front, d, more, digits, after, heq, hdigit, hdigits, hbrace⟩ := ih
      refine ⟨'$' :: front, d, more, digits, after, congrArg _ heq, hdigit, hdigits, ?_⟩
      have hquiet : Quiet (c :: text ++ rest) := quiet_cons.mpr ⟨hc, hd⟩
      rw [List.cons_append, braceNumbers_quiet hquiet, hbrace, List.cons_append]
  | @plain c text hc _ ih =>
    obtain ⟨front, d, more, digits, after, rfl, hd, hdigits, hbrace⟩ := ih
    refine ⟨c :: front, d, more, digits, after, rfl, hd, hdigits, ?_⟩
    rw [List.cons_append, braceNumbers_plain hc, hbrace, List.cons_append]

/-! ## Pieces -/

theorem pieces_nil : pieces [] = [] := by
  rw [pieces]

theorem pieces_doubled (text : Text) : pieces ('$' :: '$' :: text) = .char '$' :: pieces text := by
  rw [pieces]

theorem pieces_plain (hc : c ≠ '$') (text : Text) :
    pieces (c :: text) = .char c :: pieces text := by
  rw [pieces]
  · split
    · rename_i h
      rw [if_neg hc] at h
      cases h
    · rfl
  · exact fun _ h _ => hc h

theorem pieces_group {ref : GroupRef} (h : ref? text = some (ref, rest)) :
    pieces ('$' :: text) = .group ref :: pieces rest := by
  rw [pieces]
  · split
    · rename_i hsome
      rw [if_pos rfl, h] at hsome
      cases hsome
      rfl
    · rename_i hnone
      rw [if_pos rfl, h] at hnone
      cases hnone
  · rintro more _ rfl
    have hdollar : ref? ('$' :: more) = none := rfl
    rw [hdollar] at h
    cases h

theorem pieces_lone (h : ¬ Starts text) : pieces ('$' :: text) = .char '$' :: pieces text := by
  rw [pieces]
  · split
    · rename_i hsome
      rw [if_pos rfl, ref?_of_not_starts h] at hsome
      cases hsome
    · rfl
  · rintro more _ rfl
    exact h .dollar

/-- Nothing is started by braces that are put later. -/
theorem not_starts_braceNumbers (h : ¬ Starts text) (hintact : Intact ('$' :: text)) :
    ¬ Starts (braceNumbers text) := by
  cases text with
  | nil => rwa [braceNumbers_nil]
  | cons c more =>
    have hdollar : c ≠ '$' := fun hc => h (hc ▸ .dollar)
    rw [braceNumbers_plain hdollar]
    rintro hstarts
    cases hstarts with
    | dollar => exact hdollar rfl
    | name hname => exact h (.name hname)
    | brace hclosed =>
      have hopen : '\x7d' ∉ more := fun hmem => h (.brace hmem)
      have hmore : ¬ Numbered more := by
        have hall : more.takeWhile (· ≠ '\x7d') = more :=
          List.takeWhile_eq_self_iff.mpr (forall_ne_of_not_mem hopen)
        exact hall ▸ hintact more rfl
      have hsame := braceNumbers_append_of_not_numbered hmore quiet_nil
      rw [List.append_nil, braceNumbers_nil, List.append_nil] at hsame
      exact hopen (hsame ▸ hclosed)

/-- **A piece is read as it is meant** if no open brace takes in a number. -/
theorem First.pieces_braceNumbers (h : First text piece rest) (hintact : Intact text) :
    pieces (braceNumbers text) = piece :: pieces (braceNumbers rest) := by
  cases h with
  | doubled => rw [braceNumbers_doubled, pieces_doubled]
  | @braced inner _ h =>
    have hinner : ¬ Numbered inner := takeWhile_inner h rest ▸ hintact _ rfl
    have hclose : Quiet ('\x7d' :: rest) := quiet_cons.mpr (by decide)
    rw [braceNumbers_quiet (quiet_cons.mpr (by decide)), braceNumbers_plain (by decide),
      braceNumbers_append_of_not_numbered hinner hclose, braceNumbers_plain (by decide),
      pieces_group (ref?_braced h _)]
  | @number digits _ h =>
    have hdigits : '\x7d' ∉ digits := fun hmem => absurd (h.within _ hmem) (by decide)
    rw [braceNumbers_number h, pieces_group (ref?_braced hdigits _)]
  | @name name _ h hletter =>
    have hdollar : '$' ∉ name := fun hmem => absurd (h.within _ hmem) (by decide)
    have hrun : Run isNameChar name (braceNumbers rest) :=
      ⟨h.ne_nil, h.within, head?_braceNumbers rest ▸ h.ends⟩
    rw [braceNumbers_quiet (h.quiet hletter), braceNumbers_append_of_not_mem hdollar,
      pieces_group (ref?_run hrun)]
  | lone h =>
    rw [braceNumbers_quiet (quiet_of_not_starts h), pieces_lone (not_starts_braceNumbers h hintact)]
  | plain h => rw [braceNumbers_plain h, pieces_plain h]

/-- What holds a dollar sign is no number. -/
theorem refOf_of_mem (h : '$' ∈ text) : refOf text = .name text := by
  unfold refOf
  extract_lets digits value
  have hmem : '$' ∈ digits := by
    unfold digits
    split
    · exact (List.mem_cons.mp h).resolve_left (by decide)
    · exact h
  exact if_neg fun hnumber => not_isDigit_dollar (List.all_eq_true.mp hnumber.2.1 '$' hmem)

/-- **A piece is not read as it is meant** if an open brace takes in a number. -/
theorem First.pieces_braceNumbers_ne (h : First text piece rest) (hdisturbed : ¬ Intact text)
    (template : List TemplatePiece) : pieces (braceNumbers text) ≠ piece :: template := by
  obtain ⟨inner, rfl, hnumbered⟩ : ∃ inner, text = '$' :: '\x7b' :: inner ∧
      Numbered (inner.takeWhile (· ≠ '\x7d')) := by
    simpa [Intact] using hdisturbed
  obtain ⟨front, d, more, digits, after, hinner, hd, hdigits, hbrace⟩ :=
    hnumbered.exists_braceNumbers (inner.dropWhile (· ≠ '\x7d'))
  rw [List.takeWhile_append_dropWhile] at hbrace
  -- the brace of the number is the first one that closes
  have hopen : '\x7d' ∉ front ++ '$' :: '\x7b' :: digits := by
    have hfront : '\x7d' ∉ front := fun hmem => by
      have hbefore : '\x7d' ∈ inner.takeWhile (· ≠ '\x7d') :=
        hinner ▸ List.mem_append_left _ hmem
      exact absurd (List.mem_takeWhile_imp hbefore) (by decide)
    have hdigit : '\x7d' ∉ digits := fun hmem => absurd (hdigits _ hmem) (by decide)
    simp [hfront, hdigit]
  have hread : pieces (braceNumbers ('$' :: '\x7b' :: inner)) =
      .group (.name (front ++ '$' :: '\x7b' :: digits)) :: pieces after := by
    have hgroup := pieces_group (ref?_braced hopen after)
    rw [refOf_of_mem (by simp), List.append_assoc] at hgroup
    rw [braceNumbers_quiet (quiet_cons.mpr (by decide)), braceNumbers_plain (by decide), hbrace]
    exact hgroup
  have hmeant := h.next_eq
  rw [next_quiet (quiet_cons.mpr (by decide))] at hmeant
  obtain hnone | ⟨rest, hsome⟩ := ref?_open inner
  · rw [hnone, Option.elim_none] at hmeant
    cases hmeant
    rw [hread]
    exact fun heq => by cases heq
  · rw [hsome, Option.elim_some, hinner, refOf_of_mem (by simp)] at hmeant
    cases hmeant
    rw [hread]
    intro heq
    simp only [List.cons.injEq, TemplatePiece.group.injEq, GroupRef.name.injEq,
      List.append_cancel_left_eq, true_and] at heq
    exact absurd (heq.1.1 ▸ hd) (by decide)

/-- **A template is read as it is meant if and only if** no brace that is read as an opening one
takes in a number. -/
theorem pieces_braceNumbers_iff (h : Reads text template) :
    pieces (braceNumbers text) = template ↔ Undisturbed text := by
  induction h with
  | nil => exact ⟨fun _ => .nil, fun _ => by rw [braceNumbers_nil, pieces_nil]⟩
  | @cons text rest piece template hfirst _ ih =>
    by_cases hintact : Intact text
    · rw [hfirst.pieces_braceNumbers hintact, List.cons.injEq, eq_self, true_and, ih]
      refine ⟨.cons hfirst hintact, fun h => ?_⟩
      cases h with
      | nil => cases hfirst
      | cons hfirst' _ hrest =>
        rwa [(hfirst.unique hfirst').2]
    · refine ⟨fun h => absurd h (hfirst.pieces_braceNumbers_ne hintact _), fun h => ?_⟩
      cases h with
      | nil => cases hfirst
      | cons _ hintact' _ => exact absurd hintact' hintact

end Template

/-- The text with every match replaced by what a template stands for there. -/
def Regex.replaced (regex : Regex) (text : Text) (template : List TemplatePiece) : Text :=
  let (found, tail) := regex.findAll text
  (found.flatMap fun m => m.before ++ m.expand regex.names template) ++ tail

namespace Function

open Rowwise.Template (First Reads Undisturbed first_iff_next_eq)

variable {text expression replacement : Text} {regex : Regex} {result : CallResult}

theorem gives_replace (hregex : Regex.ofText? expression = some regex) :
    Gives "replace".toList [text, expression, replacement] result ↔
      result = .ok (regex.replaceAll text replacement) := by
  have hreplace : replace text expression replacement = .ok (regex.replaceAll text replacement) := by
    rw [replace, hregex]
  exact gives_iff rfl fun draws => congrArg (·, draws) hreplace

/-- **A replacement means one template**, and that is what every match is replaced by if no brace
that is read as an opening one takes in a number. If one does, another template is. -/
theorem replace_reads (replacement : Text) : ∃ template,
    (∀ other, Reads replacement other ↔ other = template) ∧
    (Template.pieces (Template.braceNumbers replacement) = template ↔ Undisturbed replacement) ∧
    (Undisturbed replacement → ∀ text expression regex, Regex.ofText? expression = some regex →
      Gives "replace".toList [text, expression, replacement]
        (.ok (regex.replaced text template))) := by
  obtain ⟨template, hreads⟩ := Template.exists_reads replacement
  have hiff := Template.pieces_braceNumbers_iff hreads
  refine ⟨template, fun other => ⟨hreads.unique, fun h => h ▸ hreads⟩, hiff, ?_⟩
  intro hundisturbed text expression regex hregex
  rw [gives_replace hregex, ← hiff.mpr hundisturbed]
  rfl

/-- One letter, as a group. -/
def letterGroup : Text :=
  ['(', 'a', ')']

/-- The number of a group ends where its digits end, and a name may stand in braces. -/
theorem replace_reads_adjacent : Undisturbed ['$', '1', 's', '$', '\x7b', 'x', '\x7d'] ∧
    Gives "replace".toList [['b', 'a'], letterGroup, ['$', '1', 's', '$', '\x7b', 'x', '\x7d']]
      (.ok ['b', 'a', 's']) := by
  have hnumber : First ['$', '1', 's', '$', '\x7b', 'x', '\x7d'] (.group (.number 1))
      ['s', '$', '\x7b', 'x', '\x7d'] := first_iff_next_eq.mpr rfl
  have hletter : First ['s', '$', '\x7b', 'x', '\x7d'] (.char 's') ['$', '\x7b', 'x', '\x7d'] :=
    first_iff_next_eq.mpr rfl
  have hbraced : First ['$', '\x7b', 'x', '\x7d'] (.group (.name ['x'])) [] :=
    first_iff_next_eq.mpr rfl
  have hundisturbed : Undisturbed ['$', '1', 's', '$', '\x7b', 'x', '\x7d'] := by
    refine .cons hnumber ?_ (.cons hletter ?_ (.cons hbraced ?_ .nil))
    · rintro inner ⟨⟩
    · rintro inner ⟨⟩
    · rintro inner ⟨⟩ (⟨⟩ | ⟨⟩ | ⟨⟩ | ⟨_, ⟨⟩⟩)
  have hsome : (Regex.ofText? letterGroup).isSome := by decide +kernel
  obtain ⟨template, hreads, -, hgives⟩ :=
    replace_reads ['$', '1', 's', '$', '\x7b', 'x', '\x7d']
  obtain rfl : [.group (.number 1), .char 's', .group (.name ['x'])] = template :=
    (hreads _).mp (.cons hnumber (.cons hletter (.cons hbraced .nil)))
  have hreplaced : ((Regex.ofText? letterGroup).get hsome).replaced ['b', 'a']
      [.group (.number 1), .char 's', .group (.name ['x'])] = ['b', 'a', 's'] := by
    decide +kernel +revert
  refine ⟨hundisturbed, ?_⟩
  rw [← hreplaced]
  exact hgives hundisturbed _ _ _ (Option.some_get hsome).symm

/-- A brace that never closes stands for itself, but takes in the number after it: the whole match
is then replaced by a group that does not exist. -/
theorem replace_reads_swallowed : ∃ regex, Regex.ofText? letterGroup = some regex ∧
    Reads ['$', '\x7b', '$', '1'] [.char '$', .char '\x7b', .group (.number 1)] ∧
    regex.replaced ['a'] [.char '$', .char '\x7b', .group (.number 1)] = ['$', '\x7b', 'a'] ∧
    Gives "replace".toList [['a'], letterGroup, ['$', '\x7b', '$', '1']] (.ok []) := by
  have hsome : (Regex.ofText? letterGroup).isSome := by decide +kernel
  have hdollar : First ['$', '\x7b', '$', '1'] (.char '$') ['\x7b', '$', '1'] :=
    first_iff_next_eq.mpr rfl
  have hbrace : First ['\x7b', '$', '1'] (.char '\x7b') ['$', '1'] := first_iff_next_eq.mpr rfl
  have hnumber : First ['$', '1'] (.group (.number 1)) [] := first_iff_next_eq.mpr rfl
  refine ⟨(Regex.ofText? letterGroup).get hsome, (Option.some_get hsome).symm,
    .cons hdollar (.cons hbrace (.cons hnumber .nil)), ?_, ?_⟩
  · decide +kernel +revert
  · rw [gives_replace (Option.some_get hsome).symm]
    exact congrArg Except.ok (by decide +kernel +revert)

end Function

end Rowwise
