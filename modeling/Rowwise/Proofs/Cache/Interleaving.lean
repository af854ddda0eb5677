import Rowwise.Proofs.Cache.Entries

/-!
# Cache — Interleaving

A cache that any number of callers use at once. A request takes its tick in one step and is served
in another, and between the two anything may happen: other requests may take later ticks and be
served first, and the cache may be cleared. The main statement is what holds in every state that
can be reached.

The invariant (`Consistent`) ties three things together. The ticks of the entries and of the
requests that still wait are all different, for each was taken from the clock once; the entries
are what the history of served requests says; and the counters count that history.
-/

namespace Rowwise.Cache

/-- A request between its two steps. -/
structure Ticket where
  tick : Nat
  pattern : Text
  deriving DecidableEq

/-- A call that has come to its end. -/
inductive Event
  /-- A request was given a program, which was in the cache or not. -/
  | served (pattern : Text) (program : Prepared) (hit : Bool)
  /-- A look at the entry of a pattern. -/
  | looked (pattern : Text) (found : Option CachedProgram)
  | cleared

namespace Event

/-- The end of a request. -/
def isServed : Event → Bool
  | served .. => true
  | looked .. | cleared => false

/-- A request for the pattern that found its program. -/
def isHit (pattern : Text) : Event → Bool
  | served other _ hit => other = pattern && hit
  | looked .. | cleared => false

/-- A request for the pattern that put its program into the cache. -/
def isInsertion (pattern : Text) : Event → Bool
  | served other _ hit => other = pattern && !hit
  | looked .. | cleared => false

/-- What a call gave is the prepared compilation of its own pattern. -/
def Faithful : Event → Prop
  | served pattern program _ => program = .ofProgram (Pattern.compile pattern)
  | looked pattern found => ∀ entry ∈ found, entry.program = .ofProgram (Pattern.compile pattern)
  | cleared => True

/-- How many requests for the pattern found its program since it was last put into the cache. The
history has its latest event first. -/
def hitsSinceInsertion (pattern : Text) (history : List Event) : Nat :=
  (history.takeWhile fun event => !event.isInsertion pattern).countP (isHit pattern)

theorem hitsSinceInsertion_le (pattern : Text) (history : List Event) :
    hitsSinceInsertion pattern history ≤ history.countP isServed := by
  refine Nat.le_trans ((List.takeWhile_sublist _).countP_le) (List.countP_mono_left ?_)
  intro event _ hhit
  cases event with
  | served => rfl
  | looked | cleared => simp [isHit] at hhit

@[simp] theorem hitsSinceInsertion_inserted (pattern : Text) (program : Prepared)
    (history : List Event) :
    hitsSinceInsertion pattern (.served pattern program false :: history) = 0 := by
  simp [hitsSinceInsertion, isInsertion]

@[simp] theorem hitsSinceInsertion_found (pattern : Text) (program : Prepared)
    (history : List Event) :
    hitsSinceInsertion pattern (.served pattern program true :: history)
      = hitsSinceInsertion pattern history + 1 := by
  simp [hitsSinceInsertion, isInsertion, isHit]

theorem hitsSinceInsertion_cons_other {pattern : Text} {event : Event}
    (hhit : event.isHit pattern = false) (hinsertion : event.isInsertion pattern = false)
    (history : List Event) :
    hitsSinceInsertion pattern (event :: history) = hitsSinceInsertion pattern history := by
  simp [hitsSinceInsertion, hhit, hinsertion]

end Event

/-- A cache with the requests that wait to be served and the calls that have come to their end,
the latest first. -/
structure World where
  cache : Cache
  waiting : List Ticket
  history : List Event

namespace World

/-- A new cache. -/
def start (capacity : Nat) : World :=
  ⟨.new capacity, [], []⟩

/-- A request takes its tick. -/
def take (w : World) (pattern : Text) : World :=
  ⟨w.cache.takeTick.2, ⟨w.cache.takeTick.1, pattern⟩ :: w.waiting, w.history⟩

/-- A request is served. -/
def serve (w : World) (ticket : Ticket) : World :=
  let served := w.cache.serve ticket.tick ticket.pattern
  ⟨served.2, w.waiting.erase ticket,
    .served ticket.pattern served.1 (w.cache.get? ticket.pattern).isSome :: w.history⟩

/-- Someone looks at the entry of a pattern. -/
def look (w : World) (pattern : Text) : World :=
  { w with history := .looked pattern (w.cache.get? pattern) :: w.history }

/-- The cache is cleared. -/
def clear (w : World) : World :=
  { w with cache := w.cache.clear, history := .cleared :: w.history }

/-- The entries are listed in another order. -/
def reorder (w : World) (entries : List Entry) : World :=
  { w with cache := { w.cache with entries } }

/-- What may happen next. The order in which a cache lists its entries may change at any time. -/
inductive Step (w : World) : World → Prop
  | take (pattern : Text) : Step w (w.take pattern)
  | serve (ticket : Ticket) (hwaiting : ticket ∈ w.waiting) : Step w (w.serve ticket)
  | look (pattern : Text) : Step w (w.look pattern)
  | clear : Step w w.clear
  | reorder (entries : List Entry) (hperm : entries.Perm w.cache.entries) :
    Step w (w.reorder entries)

/-- The states that a new cache can come to. -/
inductive Reachable (capacity : Nat) : World → Prop
  | start : Reachable capacity (start capacity)
  | step {w w' : World} (h : Reachable capacity w) (hstep : Step w w') : Reachable capacity w'

/-- The ticks that have been taken and may still be found. -/
def ticksInUse (w : World) : List Nat :=
  w.waiting.map Ticket.tick ++ ticks w.cache.entries

/-! ## The invariant -/

/-- What an entry holds, judged by the calls so far. Whether it was used again is judged by the calls
and not by its count, which may have wrapped around. -/
structure Accounts (history : List Event) (entry : Entry) : Prop where
  program : entry.2.program = .ofProgram (Pattern.compile entry.1)
  useCount : entry.2.useCount = .ofNat (Event.hitsSinceInsertion entry.1 history)
  lastUsed : entry.2.lastUsed.isSome ↔ 0 < Event.hitsSinceInsertion entry.1 history

/-- What holds between a cache, the requests that wait, and the calls so far. -/
structure Consistent (capacity : Nat) (w : World) : Prop where
  capacity : w.cache.capacity = max capacity 1
  size : w.cache.entries.length ≤ w.cache.capacity
  patterns : (patterns w.cache.entries).Nodup
  ticks : w.ticksInUse.Nodup
  clock : ∀ tick ∈ w.ticksInUse, tick < w.cache.clock
  entries : ∀ entry ∈ w.cache.entries, Accounts w.history entry
  history : ∀ event ∈ w.history, event.Faithful
  counters : w.cache.hits + w.cache.misses = w.history.countP Event.isServed
  requests : w.cache.clock = w.waiting.length + w.history.countP Event.isServed

theorem consistent_start (capacity : Nat) : Consistent capacity (start capacity) where
  capacity := rfl
  size := Nat.zero_le _
  patterns := List.nodup_nil
  ticks := List.nodup_nil
  clock := by simp [ticksInUse, start, new, Cache.ticks]
  entries := by simp [start, new]
  history := by simp [start]
  counters := rfl
  requests := rfl

variable {capacity : Nat} {w : World}

theorem Consistent.pos (h : Consistent capacity w) : 0 < w.cache.capacity := by
  rw [h.capacity]
  omega

theorem Consistent.hitsSinceInsertion_le_clock (h : Consistent capacity w) (pattern : Text) :
    Event.hitsSinceInsertion pattern w.history ≤ w.cache.clock := by
  have hserved := Event.hitsSinceInsertion_le pattern w.history
  have hrequests := h.requests
  omega

/-! ### Steps beside the entries -/

/-- The clock has never shown the new tick before. -/
theorem Consistent.take (h : Consistent capacity w) (pattern : Text) :
    Consistent capacity (w.take pattern) where
  capacity := h.capacity
  size := h.size
  patterns := h.patterns
  ticks := by
    refine List.nodup_cons.mpr ⟨?_, h.ticks⟩
    intro hmem
    exact Nat.lt_irrefl _ (h.clock _ hmem)
  clock := by
    intro tick htick
    rcases List.mem_cons.mp htick with rfl | htick
    · exact Nat.lt_succ_self _
    · exact Nat.lt_succ_of_lt (h.clock tick htick)
  entries := h.entries
  history := h.history
  counters := h.counters
  requests := by
    have hclock : (w.take pattern).cache.clock = w.cache.clock + 1 := rfl
    have hwaiting : (w.take pattern).waiting.length = w.waiting.length + 1 := rfl
    have hhistory : (w.take pattern).history = w.history := rfl
    rw [hclock, hwaiting, hhistory, h.requests, Nat.add_right_comm]

theorem Accounts.cons_other {history : List Event} {entry : Entry} (h : Accounts history entry)
    {event : Event} (hhit : event.isHit entry.1 = false)
    (hinsertion : event.isInsertion entry.1 = false) : Accounts (event :: history) entry where
  program := h.program
  useCount := by rw [h.useCount, Event.hitsSinceInsertion_cons_other hhit hinsertion]
  lastUsed := by rw [h.lastUsed, Event.hitsSinceInsertion_cons_other hhit hinsertion]

theorem Consistent.look (h : Consistent capacity w) (pattern : Text) :
    Consistent capacity (w.look pattern) where
  capacity := h.capacity
  size := h.size
  patterns := h.patterns
  ticks := h.ticks
  clock := h.clock
  entries := fun entry hentry => (h.entries entry hentry).cons_other rfl rfl
  history := by
    intro event hevent
    rcases List.mem_cons.mp hevent with rfl | hevent
    · intro found hfound
      exact (h.entries _ (mem_of_get? hfound)).program
    · exact h.history event hevent
  counters := h.counters
  requests := h.requests

theorem Consistent.clear (h : Consistent capacity w) : Consistent capacity w.clear where
  capacity := h.capacity
  size := Nat.zero_le _
  patterns := List.nodup_nil
  ticks := by
    simpa [ticksInUse, World.clear, Cache.clear, Cache.ticks] using h.ticks.of_append_left
  clock := by
    intro tick htick
    have hwaiting : tick ∈ w.waiting.map Ticket.tick := by
      simpa [ticksInUse, World.clear, Cache.clear, Cache.ticks] using htick
    exact h.clock tick (List.mem_append_left _ hwaiting)
  entries := by simp [World.clear, Cache.clear]
  history := by
    intro event hevent
    rcases List.mem_cons.mp hevent with rfl | hevent
    · trivial
    · exact h.history event hevent
  counters := h.counters
  requests := h.requests

theorem Consistent.reorder (h : Consistent capacity w) {entries : List Entry}
    (hperm : entries.Perm w.cache.entries) : Consistent capacity (w.reorder entries) where
  capacity := h.capacity
  size := hperm.length_eq ▸ h.size
  patterns := (hperm.map _).nodup_iff.mpr h.patterns
  ticks := ((hperm.map _).append_left _).nodup_iff.mpr h.ticks
  clock := fun tick htick => h.clock tick (((hperm.map _).append_left _).mem_iff.mp htick)
  entries := fun entry hentry => h.entries entry (hperm.mem_iff.mp hentry)
  history := h.history
  counters := h.counters
  requests := h.requests

/-! ### Serving -/

open scoped List in
/-- **Serving hands a tick on**: from the request that waited to the entry that it leaves. So no
tick is in use that was not in use before, and none is used twice. -/
theorem ticksInUse_serve (h : Consistent capacity w) {ticket : Ticket}
    (hwaiting : ticket ∈ w.waiting) :
    ∃ inUse, (w.serve ticket).ticksInUse.Perm inUse ∧ inUse.Sublist w.ticksInUse := by
  obtain ⟨program, kept, hperm, htick, hkept, -, -⟩ :=
    exists_entries_serve ticket.tick ticket.pattern h.patterns h.pos h.size
  refine ⟨w.waiting.map Ticket.tick ++ Cache.ticks kept, ?_, (hkept.map _).append_left _⟩
  have hentries : (Cache.ticks (w.serve ticket).cache.entries).Perm
      (ticket.tick :: Cache.ticks kept) := by
    rw [← htick]
    exact hperm.map _
  calc (w.serve ticket).ticksInUse
      _ ~ (w.waiting.erase ticket).map Ticket.tick ++ ticket.tick :: Cache.ticks kept :=
        hentries.append_left _
      _ ~ (ticket :: w.waiting.erase ticket).map Ticket.tick ++ Cache.ticks kept :=
        List.perm_middle
      _ ~ w.waiting.map Ticket.tick ++ Cache.ticks kept :=
        ((List.perm_cons_erase hwaiting).symm.map _).append_right _

/-- The entry that a hit leaves has served one request more. -/
theorem Accounts.touch {history : List Event} {pattern : Text} {found : CachedProgram}
    (h : Accounts history (pattern, found)) (tick : Nat) (program : Prepared) :
    Accounts (.served pattern program true :: history) (pattern, Cache.touch tick found) where
  program := h.program
  useCount := by
    have hcount : found.useCount = .ofNat (Event.hitsSinceInsertion pattern history) := h.useCount
    simp [Cache.touch, hcount, UInt32.ofNat_add]
  lastUsed := by simp [Cache.touch]

/-- The entry that a miss leaves has served no request yet. -/
theorem accounts_inserted (history : List Event) (pattern : Text) (tick : Nat)
    (program : Prepared) :
    Accounts (.served pattern program false :: history)
      (pattern, ⟨.ofProgram (Pattern.compile pattern), 0, none, tick⟩) where
  program := rfl
  useCount := by simp
  lastUsed := by simp

theorem Accounts.cons_served {history : List Event} {entry : Entry} (h : Accounts history entry)
    {pattern : Text} (hne : entry.1 ≠ pattern) (program : Prepared) (hit : Bool) :
    Accounts (.served pattern program hit :: history) entry :=
  h.cons_other (by simp [Event.isHit, hne.symm]) (by simp [Event.isInsertion, hne.symm])

theorem Consistent.accounts_serve (h : Consistent capacity w) (ticket : Ticket) :
    ∀ entry ∈ (w.serve ticket).cache.entries, Accounts (w.serve ticket).history entry := by
  intro entry hentry
  cases hget : w.cache.get? ticket.pattern with
  | some found =>
    have hmem := (entries_serve_of_some ticket.tick h.patterns hget).mem_iff.mp hentry
    simp only [World.serve, hget, Option.isSome_some]
    -- only the pattern that was asked for sees the new event
    rcases List.mem_cons.mp hmem with rfl | hkept
    · exact (h.entries _ (mem_of_get? hget)).touch ticket.tick _
    · obtain ⟨hold, hne⟩ := List.mem_filter.mp hkept
      exact (h.entries entry hold).cons_served (by simpa using hne) _ _
  | none =>
    have hmem := (entries_serve_of_none ticket.tick hget).mem_iff.mp hentry
    simp only [World.serve, hget, Option.isSome_none]
    rcases List.mem_cons.mp hmem with rfl | hkept
    · exact accounts_inserted ..
    · have hold := (makeRoom_sublist _ _).mem hkept
      have hne : entry.1 ≠ ticket.pattern := fun he =>
        get?_eq_none_iff.mp hget (he ▸ mem_patterns hold)
      exact (h.entries entry hold).cons_served hne _ _

/-- A request is given the prepared compilation of its pattern, from the cache or not. -/
theorem Consistent.program_serve (h : Consistent capacity w) (tick : Nat) (pattern : Text) :
    (w.cache.serve tick pattern).1 = .ofProgram (Pattern.compile pattern) := by
  cases hget : w.cache.get? pattern with
  | some found =>
    rw [serve_of_some hget]
    exact (h.entries _ (mem_of_get? hget)).program
  | none => rw [serve_of_none hget]

theorem Consistent.serve (h : Consistent capacity w) {ticket : Ticket}
    (hwaiting : ticket ∈ w.waiting) : Consistent capacity (w.serve ticket) := by
  obtain ⟨program, kept, hperm, -, hkept, hothers, hroom⟩ :=
    exists_entries_serve ticket.tick ticket.pattern h.patterns h.pos h.size
  obtain ⟨inUse, hinUse, hsublist⟩ := ticksInUse_serve h hwaiting
  have hclock : (w.serve ticket).cache.clock = w.cache.clock := clock_serve
  have hcount : (w.serve ticket).history.countP Event.isServed
      = w.history.countP Event.isServed + 1 := List.countP_cons_of_pos rfl
  -- a hit and a miss need telling apart only for the accounts and for the counters
  constructor
  case capacity => exact capacity_serve.trans h.capacity
  case size =>
    have hlength : (w.serve ticket).cache.entries.length = kept.length + 1 := hperm.length_eq
    have hcapacity : (w.serve ticket).cache.capacity = w.cache.capacity := capacity_serve
    omega
  case patterns =>
    refine (hperm.map _).nodup_iff.mpr (List.nodup_cons.mpr ⟨?_, (hkept.map _).nodup h.patterns⟩)
    intro hmem
    obtain ⟨entry, hentry, he⟩ := List.mem_map.mp hmem
    exact hothers entry hentry he
  case ticks => exact hinUse.nodup_iff.mpr (hsublist.nodup h.ticks)
  case clock =>
    intro tick htick
    rw [hclock]
    exact h.clock tick (hsublist.mem (hinUse.mem_iff.mp htick))
  case entries => exact h.accounts_serve ticket
  case history =>
    intro event hevent
    rcases List.mem_cons.mp hevent with rfl | hevent
    · exact h.program_serve ticket.tick ticket.pattern
    · exact h.history event hevent
  case counters =>
    obtain ⟨hhits, hmisses⟩ := counters_serve w.cache ticket.tick ticket.pattern
    rw [hcount, ← h.counters, World.serve, hhits, hmisses]
    split <;> omega
  case requests =>
    have hlength : (w.serve ticket).waiting.length + 1 = w.waiting.length :=
      List.length_erase_add_one hwaiting
    rw [hclock, hcount, h.requests]
    omega

theorem Consistent.step {w' : World} (h : Consistent capacity w) (hstep : Step w w') :
    Consistent capacity w' := by
  cases hstep with
  | take pattern => exact h.take pattern
  | serve ticket hwaiting => exact h.serve hwaiting
  | look pattern => exact h.look pattern
  | clear => exact h.clear
  | reorder entries hperm => exact h.reorder hperm

theorem Reachable.consistent (h : Reachable capacity w) : Consistent capacity w := by
  induction h with
  | start => exact consistent_start capacity
  | step _ hstep ih => exact ih.step hstep

end World

open World in
/-- **Callers at once keep a cache in order.** Whatever the callers do and in whatever order their
steps come: there are never too many entries; their ticks are different and in the past, so that
only one entry can be the oldest; every entry holds the program of its own pattern, and so does
every answer; hits and misses count the requests that were served; an entry knows how often it was
found since it was put in, up to a wrap of its counter, and whether it was; and the clock counts
all requests. With fewer than 2^32 of them no counter wraps, and the count of an entry is exact. -/
theorem reachable_consistent {capacity : Nat} {w : World} (h : Reachable capacity w) :
    w.cache.entries.length ≤ w.cache.capacity ∧ w.cache.capacity = max capacity 1 ∧
    (ticks w.cache.entries).Nodup ∧ (∀ tick ∈ ticks w.cache.entries, tick < w.cache.clock) ∧
    (∀ oldest, oldest? w.cache.entries = some oldest →
      ∀ entry ∈ w.cache.entries, entry ≠ oldest → oldest.2.tick < entry.2.tick) ∧
    (∀ entry ∈ w.cache.entries, entry.2.program = .ofProgram (Pattern.compile entry.1)) ∧
    (∀ event ∈ w.history, event.Faithful) ∧
    w.cache.hits + w.cache.misses = w.history.countP Event.isServed ∧
    (∀ entry ∈ w.cache.entries,
      entry.2.useCount = .ofNat (Event.hitsSinceInsertion entry.1 w.history) ∧
        (entry.2.lastUsed.isSome ↔ 0 < Event.hitsSinceInsertion entry.1 w.history)) ∧
    w.cache.clock = w.waiting.length + w.history.countP Event.isServed ∧
    (∀ entry ∈ w.cache.entries, entry.2.useCount.toNat ≤ w.cache.clock) ∧
    (w.cache.clock < UInt32.size → ∀ entry ∈ w.cache.entries,
      entry.2.useCount.toNat = Event.hitsSinceInsertion entry.1 w.history ∧
        (entry.2.lastUsed.isSome ↔ 0 < entry.2.useCount.toNat)) := by
  have hw := h.consistent
  have hticks : (ticks w.cache.entries).Nodup := hw.ticks.of_append_right
  refine ⟨hw.size, hw.capacity, hticks, ?_, ?_, ?_, hw.history, hw.counters, ?_, hw.requests,
    ?_, ?_⟩
  · intro tick htick
    exact hw.clock tick (List.mem_append_right _ htick)
  · intro oldest holdest entry hentry hne
    exact oldest?_lt hticks holdest hentry hne
  · intro entry hentry
    exact (hw.entries entry hentry).program
  · intro entry hentry
    exact ⟨(hw.entries entry hentry).useCount, (hw.entries entry hentry).lastUsed⟩
  · intro entry hentry
    calc entry.2.useCount.toNat
      _ = Event.hitsSinceInsertion entry.1 w.history % UInt32.size := by
        rw [(hw.entries entry hentry).useCount, UInt32.toNat_ofNat']
      _ ≤ Event.hitsSinceInsertion entry.1 w.history := Nat.mod_le _ _
      _ ≤ w.cache.clock := hw.hitsSinceInsertion_le_clock entry.1
  · intro hclock entry hentry
    have hle := hw.hitsSinceInsertion_le_clock entry.1
    have hcount : entry.2.useCount.toNat = Event.hitsSinceInsertion entry.1 w.history := by
      rw [(hw.entries entry hentry).useCount,
        UInt32.toNat_ofNat_of_lt' (Nat.lt_of_le_of_lt hle hclock)]
    exact ⟨hcount, by rw [(hw.entries entry hentry).lastUsed, hcount]⟩

/-- Two requests, of which the later one is served first and its program evicted by the earlier
one; then the earlier pattern is asked for again. -/
def overtaken : World :=
  World.start 1 |>.take ['a'] |>.take ['b'] |>.serve ⟨1, ['b']⟩ |>.serve ⟨0, ['a']⟩
    |>.take ['a'] |>.serve ⟨2, ['a']⟩

theorem reachable_consistent_overtaken :
    World.Reachable 1 overtaken ∧
    overtaken.cache.entries = [(['a'], ⟨.ofProgram (Pattern.compile ['a']), 1, some 2, 2⟩)] ∧
    overtaken.cache.entries.length ≤ overtaken.cache.capacity ∧
    overtaken.cache.hits + overtaken.cache.misses = overtaken.history.countP Event.isServed ∧
    overtaken.cache.clock < UInt32.size ∧
    ∀ entry ∈ overtaken.cache.entries,
      entry.2.useCount.toNat = Event.hitsSinceInsertion entry.1 overtaken.history ∧
        (entry.2.lastUsed.isSome ↔ 0 < entry.2.useCount.toNat) := by
  have h : World.Reachable 1 overtaken :=
    .step (.step (.step (.step (.step (.step .start (.take ['a'])) (.take ['b']))
      (.serve ⟨1, ['b']⟩ (by decide))) (.serve ⟨0, ['a']⟩ (by decide))) (.take ['a']))
      (.serve ⟨2, ['a']⟩ (by decide))
  have hclock : overtaken.cache.clock < UInt32.size := by decide
  obtain ⟨hsize, -, -, -, -, -, -, hcounters, -, -, -, hcounts⟩ := reachable_consistent h
  exact ⟨h, rfl, hsize, hcounters, hclock, hcounts hclock⟩

end Rowwise.Cache
