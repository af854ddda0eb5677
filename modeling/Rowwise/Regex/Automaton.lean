import Rowwise.Regex.Footprint

/-!
# Matching

An expression becomes a program for a machine that follows all ways of matching side by side, in
their order of preference. The earlier alternative wins, and a greedy repetition prefers to go on.
The machine takes time proportional to the length of the text times the size of the program.
-/

namespace Rowwise.Regex

/-- An instruction; the numbers are the addresses where it goes on. -/
inductive Instruction
  /-- Consumes a character of the set. -/
  | chars (set : CharSet) (next : Nat)
  /-- Goes on if the condition holds. -/
  | look (kind : Look) (next : Nat)
  /-- Notes the position. -/
  | save (slot : Nat) (next : Nat)
  /-- Goes on at both addresses and prefers the first. -/
  | split (first second : Nat)
  /-- A match. -/
  | accept
  deriving Inhabited

/-- A program under construction. -/
abbrev Code := Array Instruction

namespace Code

/-- Adds an instruction; its address is the second component. -/
def add (code : Code) (instruction : Instruction) : Code × Nat :=
  (code.push instruction, code.size)

/-- A choice between going on at `body` and at `next`. -/
def choice (greedy : Bool) (body next : Nat) : Instruction :=
  if greedy then .split body next else .split next body

/-- Adds `count` copies in a row, the last of which goes on at `next`. -/
def copies (emit : Code → Nat → Code × Nat) : (count : Nat) → Code → (next : Nat) → Code × Nat
  | 0, code, next => (code, next)
  | count + 1, code, next =>
    let (code, entry) := emit code next
    copies emit count code entry

/-- Adds up to `count` copies in a row; each can be left out together with those after it. -/
def optionals (emit : Code → Nat → Code × Nat) (greedy : Bool) (next : Nat) :
    (count : Nat) → Code → (entry : Nat) → Code × Nat
  | 0, code, entry => (code, entry)
  | count + 1, code, entry =>
    let (code, body) := emit code entry
    let (code, entry) := code.add (choice greedy body next)
    optionals emit greedy next count code entry

/-- Adds a copy that can be repeated any number of times. The addresses are those of the copy and
of the choice after it. -/
def loop (emit : Code → Nat → Code × Nat) (greedy : Bool) (code : Code) (next : Nat) :
    Code × Nat × Nat :=
  let (code, again) := code.add .accept
  let (code, body) := emit code again
  (code.set! again (choice greedy body next), body, again)

mutual

/-- Adds the instructions for an expression, which go on at `next`; the second component is the
address of the first of them. -/
def emit (node : Node) (code : Code) (next : Nat) : Code × Nat :=
  match node with
  | .empty => (code, next)
  | .chars set => code.add (.chars set next)
  | .look kind => code.add (.look kind next)
  | .capture index body =>
    let (code, stop) := code.add (.save (2 * index + 1) next)
    let (code, entry) := emit body code stop
    code.add (.save (2 * index) entry)
  | .repetition least (some most) greedy body =>
    let (code, entry) := optionals (emit body) greedy next (most - least) code next
    copies (emit body) least code entry
  | .repetition 0 none greedy body =>
    let (code, entry, again) := loop (emit body) greedy code next
    if body.minLength = 0 then code.add (choice greedy entry next) else (code, again)
  | .repetition (least + 1) none greedy body =>
    let (code, entry, _) := loop (emit body) greedy code next
    copies (emit body) least code entry
  | .concat items => emitAll items code next
  | .alternation items => emitAny items code next

/-- Adds the instructions for expressions in a row. -/
def emitAll (items : List Node) (code : Code) (next : Nat) : Code × Nat :=
  match items with
  | [] => (code, next)
  | item :: rest =>
    let (code, entry) := emitAll rest code next
    emit item code entry

/-- Adds the instructions for a choice between expressions. -/
def emitAny (items : List Node) (code : Code) (next : Nat) : Code × Nat :=
  match items with
  | [] => (code, next)
  | [item] => emit item code next
  | item :: rest =>
    let (code, others) := emitAny rest code next
    let (code, entry) := emit item code next
    code.add (.split entry others)

end

end Code

/-- A program: its instructions, where it starts, and the number of positions that it notes. -/
structure Automaton where
  code : Code
  entry : Nat
  slots : Nat

namespace Automaton

/-- The program for an expression with some number of capture groups; group 0 is the match. -/
def ofNode (body : Node) (groups : Nat) : Automaton :=
  let (code, entry) := Code.emit (.capture 0 body) #[.accept] 0
  ⟨code, entry, 2 * (groups + 1)⟩

/-! ### Conditions on positions -/

/-- The character before a position. -/
def before? (input : Array Char) (position : Nat) : Option Char :=
  if position = 0 then none else input[position - 1]?

/-- Whether there is a character and it is a word character. -/
def isWordAt (unicode : Bool) (c? : Option Char) : Bool :=
  match c? with
  | some c => if unicode then Text.isWord c else isNameChar c
  | none => false

/-- Whether a condition holds at a position. -/
def holds (input : Array Char) (position : Nat) (look : Look) : Bool :=
  let before := before? input position
  let after := input[position]?
  match look with
  | .start => before.isNone
  | .stop => after.isNone
  | .lineStart => before.isNone || before == some '\n'
  | .lineStop => after.isNone || after == some '\n'
  | .crlfStart =>
    before.isNone || before == some '\n' || (before == some '\r' && after != some '\n')
  | .crlfStop =>
    after.isNone || after == some '\r' || (after == some '\n' && before != some '\r')
  | .word unicode negated => (isWordAt unicode before != isWordAt unicode after) != negated
  | .wordStart unicode => !isWordAt unicode before && isWordAt unicode after
  | .wordStop unicode => isWordAt unicode before && !isWordAt unicode after
  | .wordStartHalf unicode => !isWordAt unicode before
  | .wordStopHalf unicode => !isWordAt unicode after

/-! ### The machine -/

/-- The positions noted so far. -/
abbrev Slots := Array (Option Nat)

/-- One way of matching: the address of an instruction that consumes or accepts. -/
structure Thread where
  address : Nat
  slots : Slots

/-- Threads in order of preference, and the addresses visited in round `round`. -/
structure Threads where
  list : Array Thread
  visited : Array Nat
  round : Nat

namespace Threads

/-- The next round, without threads. -/
def next (threads : Threads) : Threads :=
  { threads with list := #[], round := threads.round + 1 }

end Threads

/-- Follows the instructions that consume nothing from the addresses in `work`, the preferred
ones first, and adds the threads that they lead to. Every address is visited once a round, which
bounds `fuel`. -/
def follow (machine : Automaton) (input : Array Char) (position : Nat) :
    (fuel : Nat) → (work : List (Nat × Slots)) → Threads → Threads
  | 0, _, threads => threads
  | _, [], threads => threads
  | fuel + 1, (address, slots) :: work, threads =>
    if threads.visited[address]? == some threads.round then
      follow machine input position fuel work threads
    else
      let threads := { threads with visited := threads.visited.set! address threads.round }
      match machine.code[address]? with
      | some (.look kind next) =>
        if holds input position kind then
          follow machine input position fuel ((next, slots) :: work) threads
        else follow machine input position fuel work threads
      | some (.save slot next) =>
        follow machine input position fuel ((next, slots.set! slot (some position)) :: work) threads
      | some (.split first second) =>
        follow machine input position fuel ((first, slots) :: (second, slots) :: work) threads
      | some (.chars ..) | some .accept =>
        follow machine input position fuel work
          { threads with list := threads.list.push ⟨address, slots⟩ }
      | none => follow machine input position fuel work threads

/-- Adds the threads that start at an address. -/
def spawn (machine : Automaton) (input : Array Char) (position address : Nat) (slots : Slots)
    (threads : Threads) : Threads :=
  machine.follow input position (2 * machine.code.size + 2) [(address, slots)] threads

/-- Lets the threads consume the character at a position. A thread that accepts ends the round:
those after it are less preferred. The slots of such a thread are the second component. -/
def advance (machine : Automaton) (input : Array Char) (position : Nat) :
    List Thread → Threads → Threads × Option Slots
  | [], threads => (threads, none)
  | thread :: rest, threads =>
    match machine.code[thread.address]? with
    | some .accept => (threads, some thread.slots)
    | some (.chars set next) =>
      let goesOn := match input[position]? with
        | some c => set.contains c
        | none => false
      let threads :=
        if goesOn then machine.spawn input (position + 1) next thread.slots threads else threads
      advance machine input position rest threads
    | _ => advance machine input position rest threads

/-- Runs the machine from a position, `fuel` positions at most. As long as nothing has matched, a
match may start at every position. -/
def run (machine : Automaton) (input : Array Char) :
    (fuel position : Nat) → Threads → Option Slots → Threads × Option Slots
  | 0, _, threads, found => (threads, found)
  | fuel + 1, position, threads, found =>
    let threads :=
      if found.isNone then
        machine.spawn input position machine.entry (Array.replicate machine.slots none) threads
      else threads
    if threads.list.isEmpty && found.isSome then (threads, found)
    else
      let (later, accepted) := machine.advance input position threads.list.toList threads.next
      run machine input fuel (position + 1) later (accepted <|> found)

/-- The first match from a position on, as the positions noted. -/
def findFrom (machine : Automaton) (input : Array Char) (position : Nat) (threads : Threads) :
    Threads × Option Slots :=
  if position > input.size then (threads, none)
  else machine.run input (input.size - position + 1) position threads.next none

/-- A group's extent. -/
def extent (slots : Slots) (group : Nat) : Option (Nat × Nat) :=
  match slots[2 * group]?, slots[2 * group + 1]? with
  | some (some start), some (some stop) => some (start, stop)
  | _, _ => none

/-- The matches from a position on that do not overlap. An empty match does not follow the match
before it directly. -/
def matchesFrom (machine : Automaton) (input : Array Char) :
    (fuel position : Nat) → (lastStop : Option Nat) → Threads → List Slots
  | 0, _, _, _ => []
  | fuel + 1, position, lastStop, threads =>
    match machine.findFrom input position threads with
    | (_, none) => []
    | (threads, some slots) =>
      match extent slots 0 with
      | none => []
      | some (start, stop) =>
        if start = stop ∧ lastStop = some stop then
          matchesFrom machine input fuel (position + 1) none threads
        else slots :: matchesFrom machine input fuel stop (some stop) threads

/-- All matches that do not overlap, from left to right. -/
def allMatches (machine : Automaton) (input : Array Char) : List Slots :=
  machine.matchesFrom input (2 * input.size + 3) 0 none
    ⟨#[], Array.replicate machine.code.size 0, 0⟩

end Automaton

end Rowwise.Regex
