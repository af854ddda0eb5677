import Rowwise.Proofs.Text.Runs
import Rowwise.Regex.Replacement

/-!
# Regex — Runs

What the machine finds for a character of one set followed greedily by any number of another
(`runNode`): the runs of a text, from left to right and as far as they go (`runs`). The machine has
six instructions and few threads. Between two matches there is none (`Idle`), within a match there
are two, of which the one that goes on is preferred to the one that accepts (`Inside`), and a match
that starts later comes after both. One round keeps to these two kinds of states (`Idle.round`,
`Inside.round`), which carries the whole search.
-/

namespace Rowwise.Regex

open Automaton
open Rowwise.Text (Stops)

/-- A character of one set, and then any number of another. -/
def runNode (first rest : CharSet) : Node :=
  .concat [.chars first, .repetition 0 none true (.chars rest)]

/-- The machine of `runNode`, from the last address to the first: the start of the match is noted,
its first character is taken, and then one more character (preferred) or the end is noted. -/
def runMachine (first rest : CharSet) : Automaton :=
  ⟨#[.accept, .save 1 0, .split 3 1, .chars rest 2, .chars first 2, .save 0 4], 5, 2⟩

theorem ofNode_runNode (first rest : CharSet) :
    .ofNode (runNode first rest) 0 = runMachine first rest := by
  rfl

section Threads

variable {first rest : CharSet} {input : Array Char} {p start : Nat} {slots : Slots}
  {threads : Threads} {c : Char} {more : List Thread}

/-- No visit has been noted for a round to come. -/
structure Noted (threads : Threads) : Prop where
  size : threads.visited.size = 6
  visited : ∀ n ∈ threads.visited, n ≤ threads.round

/-- There are no threads, and no address has been visited in this round. -/
structure Idle (threads : Threads) : Prop where
  list : threads.list = #[]
  size : threads.visited.size = 6
  visited : ∀ n ∈ threads.visited, n < threads.round

/-- The threads of a match from `start` up to a position: one that goes on, and one that accepts. -/
structure Inside (start p : Nat) (threads : Threads) : Prop where
  list : threads.list = #[⟨3, #[some start, none]⟩, ⟨0, #[some start, some p]⟩]
  noted : Noted threads
  chars : threads.visited[4]? ≠ some threads.round
  entry : threads.visited[5]? ≠ some threads.round

theorem Noted.next (h : Noted threads) : Idle threads.next :=
  ⟨rfl, h.size, fun n hn => Nat.lt_succ_of_le (h.visited n hn)⟩

theorem Idle.noted (h : Idle threads) : Noted threads :=
  ⟨h.size, fun n hn => Nat.le_of_lt (h.visited n hn)⟩

theorem Idle.getElem?_ne (h : Idle threads) (address : Nat) :
    threads.visited[address]? ≠ some threads.round := by
  intro hsome
  exact Nat.lt_irrefl _ (h.visited _ (Array.mem_of_getElem? hsome))

/-- A visit is noted for this round. -/
theorem Noted.visit (h : Noted threads) (address : Nat) (list : Array Thread) :
    Noted ⟨list, threads.visited.set! address threads.round, threads.round⟩ := by
  refine ⟨by simpa using h.size, fun n hn => ?_⟩
  rcases Array.mem_or_eq_of_mem_setIfInBounds hn with hold | rfl
  · exact h.visited n hold
  · exact Nat.le_refl _

/-! ## Spawning -/

theorem spawn_entry (hchars : threads.visited[4]? ≠ some threads.round)
    (hentry : threads.visited[5]? ≠ some threads.round) :
    (runMachine first rest).spawn input p 5 (Array.replicate 2 none) threads
      = ⟨threads.list.push ⟨4, #[some p, none]⟩,
          (threads.visited.set! 5 threads.round).set! 4 threads.round, threads.round⟩ := by
  -- from the entry only the first character is reached, and nothing before it was visited
  have hslots : (Array.replicate 2 (none : Option Nat)).set! 0 (some p) = #[some p, none] := rfl
  simp [spawn, follow, runMachine, hchars, hentry, ← hslots]

theorem Noted.spawn_entry (h : Noted threads) (hchars : threads.visited[4]? ≠ some threads.round)
    (hentry : threads.visited[5]? ≠ some threads.round) (first rest : CharSet)
    (input : Array Char) (p : Nat) :
    Noted ((runMachine first rest).spawn input p 5 (Array.replicate 2 none) threads) := by
  rw [Regex.spawn_entry hchars hentry]
  exact (h.visit 5 #[]).visit 4 _

theorem Idle.spawn_choice (h : Idle threads) :
    (runMachine first rest).spawn input p 2 slots threads
      = ⟨#[⟨3, slots⟩, ⟨0, slots.set! 1 (some p)⟩],
          (((threads.visited.set! 2 threads.round).set! 3 threads.round).set! 1
            threads.round).set! 0 threads.round, threads.round⟩ := by
  simp [spawn, follow, runMachine, h.getElem?_ne, h.list]

/-- From the choice on, a match goes on or ends. -/
theorem Idle.inside (h : Idle threads) :
    Inside start p ((runMachine first rest).spawn input p 2 #[some start, none] threads) := by
  rw [h.spawn_choice]
  refine ⟨rfl, ?_, ?_, ?_⟩
  · exact (((h.noted.visit 2 #[]).visit 3 #[]).visit 1 #[]).visit 0 _
  · simpa using h.getElem?_ne 4
  · simpa using h.getElem?_ne 5

/-! ## Advancing -/

/-- Whether there is a character of a set at a position. -/
def isAt (input : Array Char) (p : Nat) (set : CharSet) : Bool :=
  input[p]?.any set.contains

theorem advance_first : (runMachine first rest).advance input p [⟨4, slots⟩] threads
    = (if isAt input p first then (runMachine first rest).spawn input (p + 1) 2 slots threads
        else threads, none) := by
  cases hahead : input[p]? with
  | none => simp [advance, runMachine, isAt, hahead]
  | some c => simp [advance, runMachine, isAt, hahead]

theorem advance_rest {accepted : Slots} :
    (runMachine first rest).advance input p (⟨3, slots⟩ :: ⟨0, accepted⟩ :: more) threads
      = (if isAt input p rest then (runMachine first rest).spawn input (p + 1) 2 slots threads
          else threads, some accepted) := by
  cases hahead : input[p]? with
  | none => simp [advance, runMachine, isAt, hahead]
  | some c => simp [advance, runMachine, isAt, hahead]

/-! ## Rounds -/

/-- The threads of a round, with one that starts here as long as nothing has been found. -/
def started (machine : Automaton) (input : Array Char) (p : Nat) (threads : Threads)
    (found : Option Slots) : Threads :=
  if found.isNone then
    machine.spawn input p machine.entry (Array.replicate machine.slots none) threads
  else threads

/-- A match that has begun is preferred to one that starts now. -/
theorem Inside.started (h : Inside start p threads) (found : Option Slots) (first rest : CharSet)
    (input : Array Char) :
    ∃ more, (started (runMachine first rest) input p threads found).list.toList
        = ⟨3, #[some start, none]⟩ :: ⟨0, #[some start, some p]⟩ :: more ∧
      Idle (started (runMachine first rest) input p threads found).next := by
  cases found with
  | some slots => exact ⟨[], congrArg Array.toList h.list, h.noted.next⟩
  | none =>
    refine ⟨[⟨4, #[some p, none]⟩], ?_, (h.noted.spawn_entry h.chars h.entry _ _ _ _).next⟩
    show ((runMachine first rest).spawn input p 5 (Array.replicate 2 none) threads).list.toList = _
    rw [Regex.spawn_entry h.chars h.entry, h.list]
    rfl

/-- While no match goes on, the only thread is that of the match that starts here. -/
theorem Idle.started (h : Idle threads) (first rest : CharSet) (input : Array Char) (p : Nat) :
    (started (runMachine first rest) input p threads none).list.toList
        = [⟨4, #[some p, none]⟩] ∧
      Idle (started (runMachine first rest) input p threads none).next := by
  refine ⟨?_, (h.noted.spawn_entry (h.getElem?_ne 4) (h.getElem?_ne 5) _ _ _ _).next⟩
  show ((runMachine first rest).spawn input p 5 (Array.replicate 2 none) threads).list.toList = _
  rw [Regex.spawn_entry (h.getElem?_ne 4) (h.getElem?_ne 5), h.list]
  rfl

/-- A round with threads lets them advance. -/
theorem run_of_started {machine : Automaton} {found : Option Slots} {thread : Thread}
    (h : (started machine input p threads found).list.toList = thread :: more) (fuel : Nat) :
    machine.run input (fuel + 1) p threads found =
      let (later, accepted) := machine.advance input p (thread :: more)
        (started machine input p threads found).next
      machine.run input fuel (p + 1) later (accepted <|> found) := by
  have hlist : (started machine input p threads found).list.isEmpty = false := by
    rw [← Array.isEmpty_toList, h]
    rfl
  rw [run]
  show (if (started machine input p threads found).list.isEmpty && found.isSome then _ else _) = _
  rw [hlist, Bool.false_and, if_neg Bool.false_ne_true, ← h]
  rfl

/-- One round inside a match: the match up to here is found, and the one that goes on is preferred. -/
theorem Inside.round (h : Inside start p threads) (found : Option Slots) (first rest : CharSet)
    (input : Array Char) (fuel : Nat) :
    ∃ later, (runMachine first rest).run input (fuel + 1) p threads found
        = (runMachine first rest).run input fuel (p + 1) later (some #[some start, some p]) ∧
      (isAt input p rest → Inside start (p + 1) later) ∧ (¬ isAt input p rest → Idle later) := by
  obtain ⟨more, hlist, hidle⟩ := h.started found first rest input
  rw [run_of_started hlist, advance_rest]
  refine ⟨_, rfl, fun hrest => ?_, fun hrest => ?_⟩
  · rw [if_pos hrest]
    exact hidle.inside
  · rw [if_neg hrest]
    exact hidle

/-- One round of the search: a match starts here or not. -/
theorem Idle.round (h : Idle threads) (first rest : CharSet) (input : Array Char) (p fuel : Nat) :
    ∃ later, (runMachine first rest).run input (fuel + 1) p threads none
        = (runMachine first rest).run input fuel (p + 1) later none ∧
      (isAt input p first → Inside p (p + 1) later) ∧ (¬ isAt input p first → Idle later) := by
  obtain ⟨hlist, hidle⟩ := h.started first rest input p
  rw [run_of_started hlist, advance_first]
  refine ⟨_, rfl, fun hfirst => ?_, fun hfirst => ?_⟩
  · rw [if_pos hfirst]
    exact hidle.inside
  · rw [if_neg hfirst]
    exact hidle

/-- A found match ends the run when nothing goes on. -/
theorem Idle.run_found (h : Idle threads) (machine : Automaton) (slots : Slots) (fuel : Nat) :
    machine.run input fuel p threads (some slots) = (threads, some slots) := by
  cases fuel with
  | zero => rfl
  | succ fuel =>
    rw [run]
    simp [h.list]

/-! ## Runs -/

theorem isAt_of_drop {text : Text} {set : CharSet} (h : input.toList.drop p = text) :
    isAt input p set = text.head?.any set.contains := by
  rw [isAt, ← Array.getElem?_toList, ← List.head?_drop, h]

theorem isAt_of_drop_cons {text : Text} {set : CharSet} (h : input.toList.drop p = c :: text) :
    isAt input p set = set.contains c :=
  isAt_of_drop h

theorem drop_succ_of_drop {text : Text} (h : input.toList.drop p = c :: text) :
    input.toList.drop (p + 1) = text := by
  rw [← List.tail_drop, h, List.tail_cons]

theorem not_isAt_of_stops {text : Text} {set : CharSet} (h : Stops set.contains text)
    (hahead : input.toList.drop p = text) : ¬ isAt input p set := by
  rw [isAt_of_drop hahead]
  cases text with
  | nil => exact Bool.false_ne_true
  | cons c text => exact Text.stops_cons.mp h

/-- **A match goes on as far as it can**: up to the first character outside the set of the rest. -/
theorem Inside.run {run after : Text} (h : Inside start p threads) (found : Option Slots)
    (first : CharSet) (hahead : input.toList.drop p = run ++ after)
    (hrun : ∀ c ∈ run, rest.contains c) (hafter : Stops rest.contains after) (fuel : Nat) :
    ∃ later, Idle later ∧ (runMachine first rest).run input (fuel + 1 + run.length) p threads found
      = (later, some #[some start, some (p + run.length)]) := by
  induction run generalizing p threads found with
  | nil =>
    obtain ⟨later, hround, -, hends⟩ := h.round found first rest input fuel
    have hidle := hends (not_isAt_of_stops hafter hahead)
    exact ⟨later, hidle, hround.trans (hidle.run_found _ _ _)⟩
  | cons c run ih =>
    obtain ⟨hc, hrun⟩ := List.forall_mem_cons.mp hrun
    obtain ⟨later, hround, hgoes, -⟩ := h.round found first rest input (fuel + 1 + run.length)
    obtain ⟨last, hidle, hlast⟩ := ih (hgoes ((isAt_of_drop_cons hahead).trans hc)) _
      (drop_succ_of_drop hahead) hrun
    have hstop : p + 1 + run.length = p + (c :: run).length := by
      rw [List.length_cons]
      omega
    exact ⟨last, hidle, hround.trans (hstop ▸ hlast)⟩

/-- The search passes what cannot start a match. -/
theorem Idle.run_skip {before text : Text} (h : Idle threads) (rest : CharSet)
    (hahead : input.toList.drop p = before ++ text)
    (hbefore : ∀ c ∈ before, first.contains c = false) (fuel : Nat) :
    ∃ later, Idle later ∧
      (runMachine first rest).run input (fuel + before.length) p threads none
        = (runMachine first rest).run input fuel (p + before.length) later none := by
  induction before generalizing p threads with
  | nil => exact ⟨threads, h, rfl⟩
  | cons c before ih =>
    obtain ⟨hc, hbefore⟩ := List.forall_mem_cons.mp hbefore
    obtain ⟨later, hround, -, hnot⟩ := h.round first rest input p (fuel + before.length)
    have hnotAt : ¬ isAt input p first := by
      rw [isAt_of_drop_cons hahead, hc]
      exact Bool.false_ne_true
    obtain ⟨last, hidle, hlast⟩ := ih (hnot hnotAt) (drop_succ_of_drop hahead) hbefore
    have hposition : p + 1 + before.length = p + (c :: before).length := by
      rw [List.length_cons]
      omega
    exact ⟨last, hidle, hround.trans (hposition ▸ hlast)⟩

/-- No match is found in a text where no character can start one. -/
theorem Idle.run_none {text : Text} (h : Idle threads) (rest : CharSet)
    (hahead : input.toList.drop p = text) (htext : ∀ c ∈ text, first.contains c = false) :
    ∃ later, (runMachine first rest).run input (1 + text.length) p threads none
      = (later, none) := by
  obtain ⟨later, hidle, hskip⟩ := h.run_skip rest (hahead.trans (List.append_nil text).symm) htext 1
  obtain ⟨last, hround, -⟩ := hidle.round first rest input (p + text.length) 0
  exact ⟨last, hskip.trans hround⟩

/-- A text taken apart at its first run. -/
structure FirstRun (first rest : CharSet) (before : Text) (c : Char) (run after : Text) :
    Prop where
  before : ∀ d ∈ before, first.contains d = false
  start : first.contains c
  run : ∀ d ∈ run, rest.contains d
  stops : Stops rest.contains after

/-- **The search finds the first run**, from where it starts up to where it stops. -/
theorem Idle.run_some {before run after : Text} (h : Idle threads)
    (hrun : FirstRun first rest before c run after)
    (hahead : input.toList.drop p = before ++ c :: (run ++ after)) (fuel : Nat) :
    ∃ later, Idle later ∧
      (runMachine first rest).run input (fuel + 1 + run.length + 1 + before.length) p threads none
        = (later, some #[some (p + before.length), some (p + before.length + 1 + run.length)]) := by
  obtain ⟨later, hidle, hskip⟩ := h.run_skip rest hahead hrun.before (fuel + 1 + run.length + 1)
  have hstart : input.toList.drop (p + before.length) = c :: (run ++ after) := by
    rw [← List.drop_drop, hahead, List.drop_left]
  obtain ⟨next, hround, hinside, -⟩ :=
    hidle.round first rest input (p + before.length) (fuel + 1 + run.length)
  have hmatch := hinside ((isAt_of_drop_cons hstart).trans hrun.start)
  obtain ⟨last, hlast, hfound⟩ := hmatch.run none first (drop_succ_of_drop hstart) hrun.run
    hrun.stops fuel
  exact ⟨last, hlast, hskip.trans (hround.trans hfound)⟩

/-! ## One match after the other -/

theorem Noted.findFrom_none {text : Text} (h : Noted threads) (rest : CharSet)
    (hahead : input.toList.drop p = text) (htext : ∀ c ∈ text, first.contains c = false) :
    ((runMachine first rest).findFrom input p threads).2 = none := by
  obtain ⟨later, hrun⟩ := h.next.run_none rest hahead htext
  have hlength : text.length = input.size - p := by
    rw [← hahead, List.length_drop, Array.length_toList]
  rw [hlength, Nat.add_comm] at hrun
  rw [findFrom, hrun]
  split <;> rfl

theorem Noted.findFrom_some {before run after : Text} (h : Noted threads)
    (hrun : FirstRun first rest before c run after)
    (hahead : input.toList.drop p = before ++ c :: (run ++ after)) :
    ∃ later, Noted later ∧ (runMachine first rest).findFrom input p threads
      = (later, some #[some (p + before.length), some (p + before.length + 1 + run.length)]) := by
  have hsize : input.size - p = before.length + (run.length + after.length + 1) := by
    simpa using congrArg List.length hahead
  have hfuel : input.size - p + 1 = after.length + 1 + run.length + 1 + before.length := by omega
  obtain ⟨later, hidle, hmatch⟩ := h.next.run_some hrun hahead after.length
  refine ⟨later, hidle.noted, ?_⟩
  rw [findFrom, if_neg (by omega), hfuel, hmatch]

theorem matchesAfter_cons (last start stop : Nat) (more : List Slots) :
    matchesAfter 0 input last (#[some start, some stop] :: more)
      = (matchesAfter 0 input stop more).map
          (⟨(input.extract last start).toList, [some (input.extract start stop).toList]⟩ :: ·) id :=
  rfl

/-- Behind a match that is not empty the search goes on where the match stops. -/
theorem matchesFrom_of_findFrom {machine : Automaton} {later : Threads} {stop : Nat}
    (h : machine.findFrom input p threads = (later, some #[some start, some stop]))
    (hlt : start < stop) (fuel : Nat) (lastStop : Option Nat) :
    machine.matchesFrom input (fuel + 1) p lastStop threads
      = #[some start, some stop] :: machine.matchesFrom input fuel stop (some stop) later := by
  rw [matchesFrom, h]
  exact if_neg fun hempty => Nat.ne_of_lt hlt hempty.1

/-- A text where no character can start a match has no matches, and all of it is left. -/
theorem Noted.matchesAfter_none {text : Text} (h : Noted threads) (rest : CharSet)
    (hahead : input.toList.drop p = text) (htext : ∀ c ∈ text, first.contains c = false)
    (fuel : Nat) (lastStop : Option Nat) :
    matchesAfter 0 input p ((runMachine first rest).matchesFrom input fuel p lastStop threads)
      = ([], text) := by
  have hnone : (runMachine first rest).matchesFrom input fuel p lastStop threads = [] := by
    cases fuel with
    | zero => rfl
    | succ fuel =>
      have hfind := h.findFrom_none rest hahead htext
      rw [matchesFrom]
      split
      · rfl
      · next heq => rw [heq] at hfind; cases hfind
  have hlength : text.length = input.size - p := by
    rw [← hahead, List.length_drop, Array.length_toList]
  rw [hnone, matchesAfter, Array.toList_extract, List.extract_eq_take_drop, hahead, ← hlength,
    List.take_length]

/-- **The matches of a text with a run** are the first run, and then the matches behind it. -/
theorem Noted.matchesAfter_some {before run after : Text} (h : Noted threads)
    (hrun : FirstRun first rest before c run after)
    (hahead : input.toList.drop p = before ++ c :: (run ++ after)) (fuel : Nat)
    (lastStop : Option Nat) :
    ∃ later stop, Noted later ∧ input.toList.drop stop = after ∧
      matchesAfter 0 input p
          ((runMachine first rest).matchesFrom input (fuel + 1) p lastStop threads)
        = (matchesAfter 0 input stop
            ((runMachine first rest).matchesFrom input fuel stop (some stop) later)).map
          (⟨before, [some (c :: run)]⟩ :: ·) id := by
  obtain ⟨later, hnoted, hfind⟩ := h.findFrom_some hrun hahead
  have hfrom : input.toList.drop (p + before.length) = (c :: run) ++ after := by
    rw [← List.drop_drop, hahead, List.drop_left, List.cons_append]
  have hlength : p + before.length + 1 + run.length = p + before.length + (c :: run).length := by
    rw [List.length_cons]
    omega
  have hbehind : input.toList.drop (p + before.length + (c :: run).length) = after := by
    rw [← List.drop_drop, hfrom, List.drop_left]
  rw [hlength] at hfind
  refine ⟨later, _, hnoted, hbehind, ?_⟩
  rw [matchesFrom_of_findFrom hfind (Nat.lt_add_of_pos_right (Nat.succ_pos _)), matchesAfter_cons]
  simp only [Array.toList_extract, List.extract_eq_take_drop, hahead, hfrom,
    Nat.add_sub_cancel_left, List.take_left]

/-! ## All matches -/

/-- The parts of a text that a character of one kind starts and characters of another kind go on
with, from left to right and as far as they go. -/
def runs (first rest : Char → Bool) (text : Text) : List Match × Text :=
  match _h : text.dropWhile (!first ·) with
  | [] => ([], text)
  | c :: after =>
    (runs first rest (after.dropWhile rest)).map
      (⟨text.takeWhile (!first ·), [some (c :: after.takeWhile rest)]⟩ :: ·) id
termination_by text.length
decreasing_by
  have hshort := (List.dropWhile_sublist (!first ·) (l := text)).length_le
  have hshorter := (List.dropWhile_sublist rest (l := after)).length_le
  rw [_h, List.length_cons] at hshort
  omega

theorem runs_of_nil {first rest : Char → Bool} {text : Text}
    (h : text.dropWhile (!first ·) = []) : runs first rest text = ([], text) := by
  rw [runs]
  split
  · rfl
  · next hcons => cases h.symm.trans hcons

theorem runs_of_cons {first rest : Char → Bool} {text after : Text}
    (h : text.dropWhile (!first ·) = c :: after) :
    runs first rest text = (runs first rest (after.dropWhile rest)).map
      (⟨text.takeWhile (!first ·), [some (c :: after.takeWhile rest)]⟩ :: ·) id := by
  rw [runs]
  split
  · next hnil => cases h.symm.trans hnil
  · next hcons =>
    cases h.symm.trans hcons
    rfl

/-- The first run of a text. -/
theorem firstRun_of_dropWhile {text after : Text}
    (h : text.dropWhile (!first.contains ·) = c :: after) :
    FirstRun first rest (text.takeWhile (!first.contains ·)) c
      (after.takeWhile rest.contains) (after.dropWhile rest.contains) where
  before d hd := by simpa using List.mem_takeWhile_imp hd
  start := by simpa [h] using List.head?_dropWhile_not (!first.contains ·) text
  run d hd := List.mem_takeWhile_imp hd
  stops := Text.stops_dropWhile rest.contains after

theorem Noted.matchesAfter_eq {text : Text} (h : Noted threads) (first rest : CharSet)
    (hahead : input.toList.drop p = text) (fuel : Nat) (hfuel : text.length < fuel)
    (lastStop : Option Nat) :
    matchesAfter 0 input p ((runMachine first rest).matchesFrom input fuel p lastStop threads)
      = runs first.contains rest.contains text := by
  -- one step of the recursion is one match; the threads left over from it are of no account
  induction text using runs.induct first.contains rest.contains
    generalizing p threads fuel lastStop with
  | case1 text hnone =>
    have htext : ∀ c ∈ text, first.contains c = false := by
      simpa [List.dropWhile_eq_nil_iff] using hnone
    rw [h.matchesAfter_none rest hahead htext, runs_of_nil hnone]
  | case2 text c after hsome ih =>
    obtain ⟨fuel, rfl⟩ := Nat.exists_eq_succ_of_ne_zero (Nat.ne_of_gt (Nat.zero_lt_of_lt hfuel))
    have htext : text.takeWhile (!first.contains ·)
        ++ c :: (after.takeWhile rest.contains ++ after.dropWhile rest.contains) = text := by
      rw [List.takeWhile_append_dropWhile, ← hsome, List.takeWhile_append_dropWhile]
    obtain ⟨later, stop, hnoted, hbehind, hmatches⟩ :=
      h.matchesAfter_some (firstRun_of_dropWhile hsome) (hahead.trans htext.symm) fuel lastStop
    have hlength := congrArg List.length htext
    simp only [List.length_append, List.length_cons] at hlength
    rw [hmatches, ih hnoted hbehind fuel (by omega), runs_of_cons hsome]

/-- **The matches of the machine are the runs of the text.** -/
theorem findAll_runMachine (first rest : CharSet) (text : Text) :
    findAll ⟨runMachine first rest, 0, []⟩ text = runs first.contains rest.contains text := by
  have hnoted : Noted ⟨#[], Array.replicate 6 0, 0⟩ :=
    ⟨rfl, fun n hn => Nat.le_of_eq (Array.mem_replicate.mp hn).2⟩
  exact hnoted.matchesAfter_eq first rest rfl _ (by simp; omega) none

end Threads

end Rowwise.Regex
