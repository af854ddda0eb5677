import Rowwise.Json.Value
import Rowwise.Pattern.Prepared

/-!
# Caches of prepared programs

A cache keeps the programs of the patterns that were requested last. Each request takes a tick of
the clock, and later, by itself, is served with that tick; so requests may overtake each other in
between. When the cache is full, the program with the oldest tick makes room.
-/

namespace Rowwise

/-- A program in a cache. -/
structure CachedProgram where
  program : Prepared
  /-- How often it was served again. The count is a word and wraps around. -/
  useCount : UInt32
  /-- The tick at which it was last served again. -/
  lastUsed : Option Nat
  /-- The tick of the latest request for it. -/
  tick : Nat

/-- A cache with its clock and its counters. -/
structure Cache where
  capacity : Nat
  entries : List (Text × CachedProgram)
  clock : Nat
  hits : Nat
  misses : Nat

/-- The counters of a cache. -/
structure CacheStats where
  entries : Nat
  capacity : Nat
  hits : Nat
  misses : Nat
  deriving DecidableEq

namespace Cache

/-- How many programs a cache keeps by default. -/
def defaultCapacity : Nat := 256

/-- A cache without programs, which keeps at least one. -/
def new (capacity : Nat) : Cache :=
  ⟨max capacity 1, [], 0, 0, 0⟩

/-- The program of a pattern, if it is in the cache; looking does not count as use. -/
def get? (cache : Cache) (pattern : Text) : Option CachedProgram :=
  cache.entries.lookup pattern

/-- The number of programs. -/
def size (cache : Cache) : Nat :=
  cache.entries.length

/-- Whether there is no program. -/
def isEmpty (cache : Cache) : Bool :=
  cache.entries.isEmpty

/-- The cache without its programs; clock and counters go on. -/
def clear (cache : Cache) : Cache :=
  { cache with entries := [] }

/-- The counters. -/
def stats (cache : Cache) : CacheStats :=
  ⟨cache.size, cache.capacity, cache.hits, cache.misses⟩

/-! ### Requests -/

/-- Takes a tick of the clock. -/
def takeTick (cache : Cache) : Nat × Cache :=
  (cache.clock, { cache with clock := cache.clock + 1 })

/-- The entry with the oldest tick. -/
def oldest? : List (Text × CachedProgram) → Option (Text × CachedProgram)
  | [] => none
  | entry :: rest =>
    match oldest? rest with
    | some other => some (if other.2.tick < entry.2.tick then other else entry)
    | none => some entry

/-- The entries with room for one more. -/
def makeRoom (capacity : Nat) (entries : List (Text × CachedProgram)) :
    List (Text × CachedProgram) :=
  if entries.length < capacity then entries
  else
    match oldest? entries with
    | some (pattern, _) => entries.filter (·.1 ≠ pattern)
    | none => entries

/-- An entry that is served again at a tick. -/
def touch (tick : Nat) (entry : CachedProgram) : CachedProgram :=
  { entry with useCount := entry.useCount + 1, lastUsed := some tick, tick }

/-- Serves a request that took a tick: the program comes from the cache, or is compiled and put
there. -/
def serve (cache : Cache) (tick : Nat) (pattern : Text) : Prepared × Cache :=
  match cache.get? pattern with
  | some found =>
    let entries := cache.entries.map fun entry =>
      if entry.1 = pattern then (entry.1, touch tick entry.2) else entry
    (found.program, { cache with entries, hits := cache.hits + 1 })
  | none =>
    let program := Prepared.ofProgram (Pattern.compile pattern)
    let entries := makeRoom cache.capacity cache.entries ++ [(pattern, ⟨program, 0, none, tick⟩)]
    (program, { cache with entries, misses := cache.misses + 1 })

/-- A request that is served at once. -/
def request (cache : Cache) (pattern : Text) : Prepared × Cache :=
  let (tick, cache) := cache.takeTick
  cache.serve tick pattern

end Cache

namespace CacheStats

/-- The counters as a value. -/
def toJson (stats : CacheStats) : Json :=
  .record [("entries", .integer stats.entries), ("capacity", .integer stats.capacity),
    ("hits", .integer stats.hits), ("misses", .integer stats.misses)]

end CacheStats

end Rowwise
