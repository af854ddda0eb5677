import Mathlib
import Rowwise.Job.Run
import Rowwise.Proofs.Cache.Entries
import Rowwise.Proofs.Pattern.Determinism
import Rowwise.Proofs.Pattern.Grammar

/-!
# Job — Agreement

The ways to run a job, held against each other. A job can be run with a cache, without one, with
one that is not to be used, on a worker, with default options, and strictly; and a cache can have
any history of requests and jobs. The main statement is that for a pattern that draws no random
numbers all of them give one answer, and says what that answer is.

The invariant is that a cache is `Faithful`: each entry holds the program of its own pattern. All
that can be done with a cache keeps it (`Reached.faithful`), and with it the preparing of a pattern
comes to the same with and without a cache (`prepare_program`). What is left to each way of running
a job is the same execution, which is settled by the request and the options
(`execute_of_deterministic`).
-/

namespace Rowwise.Cache

/-! ## Caches with a history -/

/-- Every entry holds the program of its own pattern. -/
def Faithful (cache : Cache) : Prop :=
  ∀ entry ∈ cache.entries, entry.2.program = .ofProgram (Pattern.compile entry.1)

theorem faithful_new (capacity : Nat) : (new capacity).Faithful := by
  intro entry hentry
  cases hentry

theorem Faithful.clear {cache : Cache} (_h : cache.Faithful) : cache.clear.Faithful := by
  intro entry hentry
  cases hentry

theorem Faithful.reorder {cache : Cache} (h : cache.Faithful) {entries : List Entry}
    (hperm : entries.Perm cache.entries) : Faithful { cache with entries } := by
  intro entry hentry
  exact h entry (hperm.mem_iff.mp hentry)

/-- A request to a faithful cache is given the program of its pattern, from the cache or not. -/
theorem Faithful.program_serve {cache : Cache} (h : cache.Faithful) (tick : Nat)
    (pattern : Text) : (cache.serve tick pattern).1 = .ofProgram (Pattern.compile pattern) := by
  cases hget : cache.get? pattern with
  | some found =>
    rw [serve_of_some hget]
    exact h (pattern, found) (mem_of_get? hget)
  | none => rw [serve_of_none hget]

/-- A request leaves a cache faithful: a hit stamps entries, a miss drops some and adds one. -/
theorem Faithful.serve {cache : Cache} (h : cache.Faithful) (tick : Nat) (pattern : Text) :
    (cache.serve tick pattern).2.Faithful := by
  intro entry hentry
  cases hget : cache.get? pattern with
  | some found =>
    rw [serve_of_some hget] at hentry
    obtain ⟨old, hold, rfl⟩ := List.mem_map.mp hentry
    split
    · exact h old hold
    · exact h old hold
  | none =>
    rw [serve_of_none hget] at hentry
    rcases List.mem_append.mp hentry with hold | hnew
    · exact h entry ((makeRoom_sublist _ _).mem hold)
    · rw [List.mem_singleton.mp hnew]

end Rowwise.Cache

namespace Rowwise.Job

open Cache (Faithful Entry)

/-- What a cache may be next: requests and clearing, the two steps of a request by themselves, as
callers at once see them, a job that was given the cache, and the entries in another order. Looking
at a cache leaves it as it is. -/
inductive Use (cache : Cache) : Cache → Prop
  | request (pattern : Text) : Use cache (cache.request pattern).2
  | take : Use cache cache.takeTick.2
  | serve (tick : Nat) (pattern : Text) : Use cache (cache.serve tick pattern).2
  | clear : Use cache cache.clear
  | reorder (entries : List Entry) (hperm : entries.Perm cache.entries) :
    Use cache { cache with entries }
  | job (request : Request) (options : Options) (draws : Draws) {next : Cache}
    (hnext : (run request options (some cache) draws).cache = some next) : Use cache next

/-- The caches that a new one can come to. -/
inductive Reached : Cache → Prop
  | new (capacity : Nat) : Reached (.new capacity)
  | step {cache next : Cache} (h : Reached cache) (huse : Use cache next) : Reached next

/-! ## Preparing -/

/-- **A cache cannot be seen** in what a pattern is prepared to, if it is faithful or not used. -/
theorem prepare_program {options : Options} {cache : Option Cache}
    (h : options.useCache → ∀ given ∈ cache, given.Faithful) (pattern : Text) :
    (prepare pattern options cache).1 = .ofProgram (Pattern.compile pattern) := by
  obtain ⟨lineSeparator, useCache⟩ := options
  cases cache with
  | none => rfl
  | some given =>
    cases useCache with
    | false => rfl
    | true =>
      have htick : given.takeTick.2.Faithful := h rfl given rfl
      exact htick.program_serve given.takeTick.1 pattern

/-- Preparing leaves the cache as it was, or as a request for the pattern leaves it. -/
theorem prepare_cache (pattern : Text) (options : Options) (cache : Option Cache) :
    (prepare pattern options cache).2 = cache ∨
      (prepare pattern options cache).2 = cache.map fun given => (given.request pattern).2 := by
  obtain ⟨lineSeparator, useCache⟩ := options
  cases cache with
  | none => exact .inl rfl
  | some given =>
    cases useCache with
    | false => exact .inl rfl
    | true => exact .inr rfl

/-! ## Running -/

section Run

variable {request : Request} {options : Options} {cache : Option Cache} {draws : Draws}

theorem run_of_complete (h : request.isComplete) :
    run request options cache draws =
      ⟨some (execute request (prepare request.pattern options cache).1 options draws).1,
        (prepare request.pattern options cache).2,
        (execute request (prepare request.pattern options cache).1 options draws).2⟩ := by
  rw [run, if_pos h]

/-- An incomplete request does nothing. -/
theorem run_of_incomplete (h : ¬ request.isComplete) :
    run request options cache draws = ⟨none, cache, draws⟩ := by
  rw [run, if_neg h]

theorem isComplete_iff : request.isComplete ↔ ¬ (request.rawText = [] ∨ request.pattern = []) := by
  simp [Request.isComplete]

theorem runStrict_of_incomplete (h : ¬ request.isComplete) :
    runStrict request options draws = .ok (none, draws) := by
  rw [runStrict, if_neg h]

/-- A strict job breaks off at the first problem of its pattern. -/
theorem runStrict_of_issue (h : request.isComplete) {position : Nat}
    (hissue : (Pattern.diagnose request.pattern).head? = some position) :
    runStrict request options draws =
      .error (.pattern (.unbalancedParenthesis position)) := by
  obtain ⟨more, hmore⟩ := List.head?_eq_some_iff.mp hissue
  rw [runStrict, if_pos h, Pattern.compileStrict, hmore]
  rfl

/-- A strict job whose pattern has no problem runs the program that the tolerant compiler gives. -/
theorem runStrict_of_accepted (h : request.isComplete)
    (hnone : Pattern.diagnose request.pattern = []) :
    runStrict request options draws =
      .ok (some (execute request (.ofProgram (Pattern.compile request.pattern)) options draws).1,
        (execute request (.ofProgram (Pattern.compile request.pattern)) options draws).2) := by
  rw [runStrict, if_pos h, Pattern.compileStrict, hnone]
  rfl

end Run

/-! ## Histories keep a cache faithful -/

theorem Use.faithful {cache next : Cache} (huse : Use cache next) (h : cache.Faithful) :
    next.Faithful := by
  have htick : cache.takeTick.2.Faithful := h
  cases huse with
  | request pattern => exact htick.serve _ pattern
  | take => exact htick
  | serve tick pattern => exact h.serve tick pattern
  | clear => exact h.clear
  | reorder entries hperm => exact h.reorder hperm
  | job request options draws hnext =>
    by_cases hcomplete : request.isComplete
    · rw [run_of_complete hcomplete] at hnext
      dsimp only at hnext
      rcases prepare_cache request.pattern options (some cache) with hsame | hrequest
      · rw [hsame] at hnext
        exact Option.some.inj hnext ▸ h
      · rw [hrequest] at hnext
        exact Option.some.inj hnext ▸ htick.serve _ request.pattern
    · rw [run_of_incomplete hcomplete] at hnext
      exact Option.some.inj hnext ▸ h

theorem Reached.faithful {cache : Cache} (h : Reached cache) : cache.Faithful := by
  induction h with
  | new capacity => exact Cache.faithful_new capacity
  | step _ huse ih => exact huse.faithful ih

/-! ## The answer -/

/-- The lines of a job: the compiled pattern, evaluated for each data row by itself. -/
def lines (request : Request) (draws : Draws) : List Text :=
  let data := Table.parse request.rawText request.separator request.hasHeader
  data.rows.map fun row =>
    ((Prepared.ofProgram (Pattern.compile request.pattern)).renderLine ⟨data.headers, row⟩
      draws).1.text

/-- **What a steady program makes of a request** is settled before any draw. -/
theorem execute_of_steady {request : Request} {data : Dataset} {program : Prepared}
    {line : Row → Rendered}
    (hdata : Table.parse request.rawText request.separator request.hasHeader = data)
    (hline : program.Steady data.headers data.rows line) (options : Options) (draws : Draws) :
    execute request program options draws =
      (⟨request.hasHeader, .ofLines line options.lineSeparator data.rows,
        readingLog request data ++
          renderingLog program (.ofLines line options.lineSeparator data.rows)⟩, draws) := by
  subst hdata
  rw [execute, Prepared.render_of_steady hline]

theorem execute_of_deterministic {request : Request}
    (h : (Prepared.ofProgram (Pattern.compile request.pattern)).isDeterministic)
    (options : Options) :
    ∃ outcome,
      (∀ draws, execute request (.ofProgram (Pattern.compile request.pattern)) options draws
        = (outcome, draws)) ∧
      outcome.hasHeader = request.hasHeader ∧
      ∀ draws, outcome.report.text
        = (lines request draws).flatMap fun line => line ++ options.lineSeparator := by
  obtain ⟨line, hline⟩ := Prepared.exists_steady h
    (Table.parse request.rawText request.separator request.hasHeader).headers
    (Table.parse request.rawText request.separator request.hasHeader).rows
  refine ⟨_, execute_of_steady rfl hline options, rfl, fun draws => ?_⟩
  rw [lines, List.flatMap_map, Report.ofLines]
  refine List.flatMap_congr fun row hrow => ?_
  rw [hline row hrow draws]

/-- A strict job fails at the first issue of the pattern of a complete request, and only there. -/
theorem runStrict_eq_error_iff {request : Request} {options : Options} {draws : Draws}
    {error : Error} :
    (runStrict request options draws).map Prod.fst = .error error ↔
      request.isComplete ∧ ∃ position, (Pattern.diagnose request.pattern).head? = some position ∧
        error = .pattern (.unbalancedParenthesis position) := by
  by_cases hcomplete : request.isComplete
  · cases hissue : (Pattern.diagnose request.pattern).head? with
    | none =>
      rw [runStrict_of_accepted hcomplete (List.head?_eq_none_iff.mp hissue)]
      simp [Except.map]
    | some position =>
      rw [runStrict_of_issue hcomplete hissue]
      simp [Except.map, hcomplete, eq_comm]
  · rw [runStrict_of_incomplete hcomplete]
    simp [Except.map, hcomplete]

/-- **The answer**: every run with the same line separator gives it, whatever cache it is given. -/
theorem exists_answer {request : Request}
    (hdeterministic : (Prepared.ofProgram (Pattern.compile request.pattern)).isDeterministic)
    (options : Options) :
    ∃ answer : Option Outcome,
      (∀ (others : Options) (cache : Option Cache), others.lineSeparator = options.lineSeparator →
        (others.useCache → ∀ given ∈ cache, given.Faithful) →
          ∀ draws, (run request others cache draws).outcome = answer) ∧
      (¬ (request.isComplete ∧ Pattern.diagnose request.pattern ≠ []) →
        ∀ draws, (runStrict request options draws).map Prod.fst = .ok answer) ∧
      (answer = none ↔ ¬ request.isComplete) ∧
      ∀ outcome ∈ answer, outcome.hasHeader = request.hasHeader ∧
        ∀ draws, outcome.report.text
          = (lines request draws).flatMap fun line => line ++ options.lineSeparator := by
  by_cases hcomplete : request.isComplete
  · obtain ⟨outcome, hexecute, hheader, htext⟩ := execute_of_deterministic hdeterministic options
    refine ⟨some outcome, ?_, ?_, by simp [hcomplete], ?_⟩
    · intro others cache hothers hcache draws
      have hsame : execute request (.ofProgram (Pattern.compile request.pattern)) others draws
          = execute request (.ofProgram (Pattern.compile request.pattern)) options draws := by
        rw [execute, hothers]
        rfl
      rw [run_of_complete hcomplete, prepare_program hcache, hsame, hexecute]
    · intro haccepted draws
      have hnone : Pattern.diagnose request.pattern = [] := by
        by_contra hne
        exact haccepted ⟨hcomplete, hne⟩
      rw [runStrict_of_accepted hcomplete hnone, hexecute]
      rfl
    · intro other hother
      cases hother
      exact ⟨hheader, htext⟩
  · refine ⟨none, ?_, ?_, by simp [hcomplete], by simp⟩
    · intro others cache _ _ draws
      rw [run_of_incomplete hcomplete]
    · intro _ draws
      rw [runStrict_of_incomplete hcomplete]
      rfl

/-- **All ways to run a job agree, and a cache cannot be seen.** For a pattern that draws no random
numbers and a cache with any history there is one answer: with the cache, without one, with one
that is not to be used, on a worker, and, if the options are the default ones, without naming them.
A strict job gives it too, unless the request is complete and its pattern has an issue: then it
gives the first one. There is no answer exactly if there is no text or no pattern; else its text
is the lines of the job, with the line separator after each. And an incomplete request leaves the
cache as it was. -/
theorem entry_points_agree {request : Request} {options : Options} {cache : Cache}
    (hdeterministic : (Prepared.ofProgram (Pattern.compile request.pattern)).isDeterministic)
    (hcache : Reached cache) :
    ∃ answer : Option Outcome,
      (∀ draws, (run request options (some cache) draws).outcome = answer) ∧
      (∀ draws, (run request options none draws).outcome = answer) ∧
      (∀ unused draws, (run request { options with useCache := false } unused draws).outcome
        = answer) ∧
      (∀ draws, (runOnWorker request options (some cache) draws).map Result.outcome = .ok answer ∧
        (runOnWorker request options none draws).map Result.outcome = .ok answer) ∧
      (options = .default → ∀ draws, (runDefault request draws).1 = answer) ∧
      (∀ draws error, (runStrict request options draws).map Prod.fst = .error error ↔
        request.isComplete ∧ ∃ position, (Pattern.diagnose request.pattern).head? = some position ∧
          error = .pattern (.unbalancedParenthesis position)) ∧
      (∀ draws, ¬ (request.isComplete ∧ Pattern.diagnose request.pattern ≠ []) →
        (runStrict request options draws).map Prod.fst = .ok answer) ∧
      (answer = none ↔ request.rawText = [] ∨ request.pattern = []) ∧
      (∀ outcome ∈ answer, outcome.hasHeader = request.hasHeader ∧
        ∀ draws, outcome.report.text
          = (lines request draws).flatMap fun line => line ++ options.lineSeparator) ∧
      (¬ request.isComplete → ∀ draws,
        (run request options (some cache) draws).cache = some cache ∧
        (runOnWorker request options (some cache) draws).map Result.cache = .ok (some cache)) := by
  obtain ⟨answer, hrun, hstrict, hnone, htext⟩ := exists_answer hdeterministic options
  have hwith : ∀ draws, (run request options (some cache) draws).outcome = answer := by
    refine hrun options (some cache) rfl ?_
    rintro - given ⟨⟩
    exact hcache.faithful
  have hwithout : ∀ draws, (run request options none draws).outcome = answer := by
    refine hrun options none rfl ?_
    rintro - given ⟨⟩
  refine ⟨answer, hwith, hwithout, ?_, ?_, ?_, ?_, ?_, ?_, htext, ?_⟩
  · intro unused draws
    refine hrun { options with useCache := false } unused rfl ?_ draws
    rintro ⟨⟩
  · intro draws
    exact ⟨congrArg Except.ok (hwith draws), congrArg Except.ok (hwithout draws)⟩
  · rintro rfl draws
    exact hwithout draws
  · intro draws error
    exact runStrict_eq_error_iff
  · intro draws haccepted
    exact hstrict haccepted draws
  · rw [hnone, isComplete_iff, not_not]
  · intro hincomplete draws
    rw [runOnWorker, run_of_incomplete hincomplete]
    exact ⟨rfl, rfl⟩

/-- A request of two rows for a pattern with a call. -/
def reversing : Request :=
  ⟨['a', 'b', '\n', 'c'], "@reverse($(0))".toList, .comma, false⟩

/-- A cache for one program, in which a job has taken the place of another pattern. -/
def reused : Cache :=
  ((((Cache.new 1).request ['z']).2).request reversing.pattern).2

theorem entry_points_agree_reversing :
    (Prepared.ofProgram (Pattern.compile reversing.pattern)).isDeterministic ∧
      Reached reused ∧ (reused.get? reversing.pattern).isSome ∧
      ∃ outcome,
        (∀ draws, (run reversing .default (some reused) draws).outcome = some outcome) ∧
        (∀ draws, (runDefault reversing draws).1 = some outcome) ∧
        (∀ draws, (runStrict reversing .default draws).map Prod.fst = .ok (some outcome)) ∧
        outcome.report.text = ['b', 'a', '\n', 'c', '\n'] := by
  have hdeterministic :
      (Prepared.ofProgram (Pattern.compile reversing.pattern)).isDeterministic := by cbv
  have hjob : Reached reused :=
    .step (.step (.new 1) (.request ['z'])) (.job reversing .default ⟨id, 0⟩ rfl)
  refine ⟨hdeterministic, hjob, by cbv, ?_⟩
  obtain ⟨answer, hwith, -, -, -, hdefault, -, hstrict, hnone, htext, -⟩ :=
    @entry_points_agree reversing .default reused hdeterministic hjob
  cases answer with
  | none => exact absurd (hnone.mp rfl) (by decide)
  | some outcome =>
    have haccepted : Pattern.diagnose reversing.pattern = [] := by cbv
    refine ⟨outcome, hwith, hdefault rfl, ?_, ?_⟩
    · intro draws
      exact hstrict draws fun h => h.2 haccepted
    · rw [(htext outcome rfl).2 ⟨id, 0⟩]
      cbv

end Rowwise.Job
