import Rowwise.Proofs.Cache.Entries

/-!
# Cache — Recency

Calls made one after the other, and what they leave in the cache. A cache knows only the tick of
each entry and lists its entries in no order; the reference beside it (`Ordered`, `lru`) keeps the
entries in the order of their latest requests, moves what is asked for to the front, and lets fall
off at the end what does not fit. The main statement is that nobody can tell them apart, and so
that a cache holds the patterns that were requested last.

Requests one after the other take their ticks in the order in which they are served, so the order
of the ticks is the order of recency: that is the invariant (`Ordered`) on which the two meet.
-/

namespace Rowwise.Cache

/-! ## Distinct patterns, the latest first -/

section Distinct

variable {patterns : List Text} {pattern : Text}

/-- Induction along the distinct patterns: what holds of the others holds with the first again. -/
theorem distinct_induction {motive : List Text → Prop} (nil : motive [])
    (cons : ∀ first rest, motive (rest.filter (! · == first)) → motive (first :: rest))
    (patterns : List Text) : motive patterns :=
  match patterns with
  | [] => nil
  | first :: rest => cons first rest (distinct_induction nil cons _)
termination_by patterns.length
decreasing_by exact Nat.lt_succ_of_le (List.length_filter_le _ _)

theorem nodup_eraseDups (patterns : List Text) : patterns.eraseDups.Nodup := by
  induction patterns using distinct_induction with
  | nil => exact List.nodup_nil
  | cons first rest ih =>
    rw [List.eraseDups_cons]
    exact List.nodup_cons.mpr ⟨by simp, ih⟩

theorem eraseDups_filter (keep : Text → Bool) (patterns : List Text) :
    (patterns.filter keep).eraseDups = patterns.eraseDups.filter keep := by
  induction patterns using distinct_induction with
  | nil => rfl
  | cons first rest ih =>
    rw [List.eraseDups_cons, List.filter_cons, List.filter_cons, ← ih]
    by_cases hkeep : keep first
    · rw [if_pos hkeep, if_pos hkeep, List.eraseDups_cons, List.filter_comm]
    · rw [if_neg hkeep, if_neg hkeep, List.filter_filter]
      -- what is kept is another pattern than the first
      congr 1
      apply List.filter_congr
      intro other _
      by_cases hother : other = first
      · subst hother
        simp [hkeep]
      · simp [hother]

/-- A new request moves its pattern to the front. -/
theorem eraseDups_cons_pattern (pattern : Text) (patterns : List Text) :
    (pattern :: patterns).eraseDups = pattern :: patterns.eraseDups.filter (· ≠ pattern) := by
  rw [List.eraseDups_cons, eraseDups_filter]
  congr 1
  apply List.filter_congr
  intro other _
  rw [Bool.eq_iff_iff]
  simp

/-- **The latest patterns by looking back**: a pattern is one of the latest if it was requested and
fewer others were requested after it. -/
theorem mem_take_eraseDups (capacity : Nat) :
    pattern ∈ patterns.eraseDups.take capacity ↔
      pattern ∈ patterns ∧ (patterns.takeWhile (· ≠ pattern)).eraseDups.length < capacity := by
  by_cases hmem : pattern ∈ patterns
  · obtain ⟨later, earlier, rfl, hlater⟩ := List.eq_append_cons_of_mem hmem
    have hwhile : (later ++ pattern :: earlier).takeWhile (· ≠ pattern) = later := by
      rw [List.takeWhile_append_of_pos, List.takeWhile_cons_of_neg (by simp), List.append_nil]
      intro other hother
      have : other ≠ pattern := fun he => hlater (he ▸ hother)
      simpa using this
    have hposition : (later ++ pattern :: earlier).eraseDups.idxOf pattern
        = later.eraseDups.length := by
      have hdistinct : pattern ∉ later.eraseDups := fun h => hlater (List.mem_eraseDups.mp h)
      rw [List.eraseDups_append, List.cons_removeAll, if_pos (by simpa using hlater),
        List.eraseDups_cons, List.idxOf_append_of_notMem hdistinct, List.idxOf_cons_self,
        Nat.add_zero]
    rw [List.mem_take_iff_idxOf_lt (List.mem_eraseDups.mpr hmem), hposition, hwhile]
    exact (and_iff_right hmem).symm
  · have hnot : pattern ∉ patterns.eraseDups.take capacity := fun h =>
      hmem (List.mem_eraseDups.mp (List.mem_of_mem_take h))
    exact iff_of_false hnot fun h => hmem h.1

/-- Only the latest patterns matter for the latest patterns after one more request. -/
theorem take_cons_filter_take {patterns : List Text} (hnodup : patterns.Nodup) (pattern : Text)
    (capacity : Nat) :
    (pattern :: (patterns.take capacity).filter (· ≠ pattern)).take capacity
      = (pattern :: patterns.filter (· ≠ pattern)).take capacity := by
  cases capacity with
  | zero => rfl
  | succ capacity =>
    rw [List.take_succ_cons, List.take_succ_cons]
    congr 1
    induction patterns generalizing capacity with
    | nil => rfl
    | cons first rest ih =>
      obtain ⟨hfirst, hrest⟩ := List.nodup_cons.mp hnodup
      by_cases h : first = pattern
      · subst h
        -- the pattern stands nowhere else
        have hothers : ∀ part : List Text, (∀ other ∈ part, other ∈ rest) →
            part.filter (· ≠ first) = part := by
          intro part hpart
          refine List.filter_eq_self.mpr fun other hother => ?_
          have : other ≠ first := fun he => hfirst (he ▸ hpart other hother)
          simpa using this
        rw [List.take_succ_cons, List.filter_cons_of_neg (by simp),
          List.filter_cons_of_neg (by simp), hothers _ fun _ h => List.mem_of_mem_take h,
          hothers _ fun _ h => h, List.take_take, Nat.min_self]
      · rw [List.take_succ_cons, List.filter_cons_of_pos (by simpa using h),
          List.filter_cons_of_pos (by simpa using h)]
        cases capacity with
        | zero => rfl
        | succ capacity => rw [List.take_succ_cons, List.take_succ_cons, ih hrest]

end Distinct

/-! ## Requests served at once -/

section Request

variable {cache : Cache} {pattern : Text}

@[simp] theorem clock_request : (cache.request pattern).2.clock = cache.clock + 1 :=
  clock_serve

theorem counters_request (cache : Cache) (pattern : Text) :
    (cache.request pattern).2.hits
      = cache.hits + (if pattern ∈ patterns cache.entries then 1 else 0) ∧
    (cache.request pattern).2.misses
      = cache.misses + (if pattern ∈ patterns cache.entries then 0 else 1) :=
  counters_serve cache.takeTick.2 cache.clock pattern

theorem request_of_some (hpatterns : (patterns cache.entries).Nodup) {found : CachedProgram}
    (h : cache.get? pattern = some found) :
    (cache.request pattern).1 = found.program ∧ (cache.request pattern).2.entries.Perm
      ((pattern, touch cache.clock found) :: cache.entries.filter (·.1 ≠ pattern)) := by
  have hget : cache.takeTick.2.get? pattern = some found := h
  have hnodup : (patterns cache.takeTick.2.entries).Nodup := hpatterns
  exact ⟨congrArg Prod.fst (serve_of_some hget), entries_serve_of_some cache.clock hnodup hget⟩

theorem request_of_none (h : cache.get? pattern = none) :
    (cache.request pattern).1 = .ofProgram (Pattern.compile pattern) ∧
    (cache.request pattern).2.entries.Perm
      ((pattern, ⟨.ofProgram (Pattern.compile pattern), 0, none, cache.clock⟩) ::
        makeRoom cache.capacity cache.entries) := by
  have hget : cache.takeTick.2.get? pattern = none := h
  exact ⟨congrArg Prod.fst (serve_of_none hget), entries_serve_of_none cache.clock hget⟩

end Request

/-! ## Calls -/

/-- What one can ask of a cache. -/
inductive Call
  | request (pattern : Text)
  | get (pattern : Text)
  | size
  | stats
  | clear

/-- What one is told. -/
inductive Answer
  | program (program : Prepared)
  | entry (found : Option CachedProgram)
  | size (entries : Nat)
  | stats (stats : CacheStats)
  | cleared

/-- Whether a call only looks. -/
def Call.looks : Call → Bool
  | get _ | size | stats => true
  | request _ | clear => false

/-- The answer to a call and the cache after it. -/
def perform (cache : Cache) : Call → Answer × Cache
  | .request pattern => (.program (cache.request pattern).1, (cache.request pattern).2)
  | .get pattern => (.entry (cache.get? pattern), cache)
  | .size => (.size cache.size, cache)
  | .stats => (.stats cache.stats, cache)
  | .clear => (.cleared, cache.clear)

/-- A cache can come from another by calls with such answers, the latest first. Between two calls
the entries may be listed in another order. -/
inductive Runs (first : Cache) : List Call → List Answer → Cache → Prop
  | nil : Runs first [] [] first
  | call {calls : List Call} {answers : List Answer} {cache : Cache}
      (h : Runs first calls answers cache) (call : Call) :
      Runs first (call :: calls) ((cache.perform call).1 :: answers) (cache.perform call).2
  | reorder {calls : List Call} {answers : List Answer} {cache : Cache}
      (h : Runs first calls answers cache) {entries : List Entry}
      (hperm : entries.Perm cache.entries) :
      Runs first calls answers { cache with entries }

/-- The patterns that were requested since the cache was last cleared, the latest first. -/
def requested : List Call → List Text
  | [] => []
  | .request pattern :: calls => pattern :: requested calls
  | .clear :: _ => []
  | .get _ :: calls | .size :: calls | .stats :: calls => requested calls

/-- The distinct patterns that were requested since the cache was last cleared, by their latest
requests. -/
def recent (calls : List Call) : List Text :=
  (requested calls).eraseDups

/-! ## The reference -/

/-- A request of a cache whose entries are in the order of recency: the entry moves to the front,
and what does not fit falls off at the end. -/
def requestInOrder (cache : Cache) (pattern : Text) : Prepared × Cache :=
  let others := cache.entries.filter (·.1 ≠ pattern)
  match cache.get? pattern with
  | some found =>
    (found.program, { cache with
      entries := ((pattern, touch cache.clock found) :: others).take cache.capacity
      clock := cache.clock + 1
      hits := cache.hits + 1 })
  | none =>
    let program := .ofProgram (Pattern.compile pattern)
    (program, { cache with
      entries := ((pattern, ⟨program, 0, none, cache.clock⟩) :: others).take cache.capacity
      clock := cache.clock + 1
      misses := cache.misses + 1 })

/-- The answer of the reference to a call, and the reference after it. -/
def performInOrder (cache : Cache) : Call → Answer × Cache
  | .request pattern => (.program (cache.requestInOrder pattern).1, (cache.requestInOrder pattern).2)
  | call => cache.perform call

/-- The reference after some calls, with its answers. -/
def lru (capacity : Nat) : List Call → List Answer × Cache
  | [] => ([], .new capacity)
  | call :: calls =>
    let earlier := lru capacity calls
    let next := earlier.2.performInOrder call
    (next.1 :: earlier.1, next.2)

/-- The entries are in the order of recency, and it is the order of their ticks. -/
structure Ordered (cache : Cache) : Prop where
  pos : 0 < cache.capacity
  size : cache.entries.length ≤ cache.capacity
  patterns : (patterns cache.entries).Nodup
  recency : cache.entries.Pairwise fun later earlier => earlier.2.tick < later.2.tick
  clock : ∀ entry ∈ cache.entries, entry.2.tick < cache.clock

theorem ordered_new (capacity : Nat) : (new capacity).Ordered where
  pos := by
    simp only [new]
    omega
  size := Nat.zero_le _
  patterns := List.nodup_nil
  recency := List.Pairwise.nil
  clock := by simp [new]

/-- What is put in front has the latest tick. -/
theorem Ordered.front {cache next : Cache} (h : cache.Ordered) {pattern : Text}
    (program : CachedProgram) (htick : program.tick = cache.clock)
    (hentries : next.entries
      = ((pattern, program) :: cache.entries.filter (·.1 ≠ pattern)).take cache.capacity)
    (hcapacity : next.capacity = cache.capacity) (hclock : next.clock = cache.clock + 1) :
    next.Ordered := by
  have hfilter : (cache.entries.filter (·.1 ≠ pattern)).Sublist cache.entries :=
    List.filter_sublist
  have htake := List.take_sublist cache.capacity
    ((pattern, program) :: cache.entries.filter (·.1 ≠ pattern))
  constructor
  case pos => exact hcapacity ▸ h.pos
  case size =>
    rw [hentries, hcapacity]
    exact List.length_take_le _ _
  case patterns =>
    rw [hentries]
    refine (htake.map _).nodup (List.nodup_cons.mpr ⟨?_, (hfilter.map _).nodup h.patterns⟩)
    simp
  case recency =>
    rw [hentries]
    refine List.Pairwise.sublist htake (List.pairwise_cons.mpr ⟨?_, h.recency.sublist hfilter⟩)
    intro entry hentry
    have := h.clock entry (hfilter.mem hentry)
    simpa [htick] using this
  case clock =>
    intro entry hentry
    rw [hentries] at hentry
    rw [hclock]
    rcases List.mem_cons.mp (htake.mem hentry) with rfl | hentry
    · simp only [htick]
      omega
    · have := h.clock entry (hfilter.mem hentry)
      omega

theorem Ordered.requestInOrder {cache : Cache} (h : cache.Ordered) (pattern : Text) :
    (cache.requestInOrder pattern).2.Ordered := by
  rw [Cache.requestInOrder]
  cases cache.get? pattern with
  | some found => exact h.front (touch cache.clock found) rfl rfl rfl rfl
  | none => exact h.front ⟨_, 0, none, cache.clock⟩ rfl rfl rfl rfl

theorem Ordered.clear {cache : Cache} (h : cache.Ordered) : cache.clear.Ordered where
  pos := h.pos
  size := Nat.zero_le _
  patterns := List.nodup_nil
  recency := List.Pairwise.nil
  clock := by simp [Cache.clear]

theorem ordered_lru (capacity : Nat) (calls : List Call) : (lru capacity calls).2.Ordered := by
  induction calls with
  | nil => exact ordered_new capacity
  | cons call calls ih =>
    cases call with
    | request pattern => exact ih.requestInOrder pattern
    | clear => exact ih.clear
    | get _ | size | stats => exact ih

/-! ## No cache can be told from the reference -/

/-- Two caches that differ at most in how they list their entries. -/
structure Same (cache other : Cache) : Prop where
  capacity : cache.capacity = other.capacity
  clock : cache.clock = other.clock
  hits : cache.hits = other.hits
  misses : cache.misses = other.misses
  entries : cache.entries.Perm other.entries

section Same

variable {cache reference other : Cache}

theorem Same.refl (cache : Cache) : cache.Same cache :=
  ⟨rfl, rfl, rfl, rfl, .refl _⟩

theorem Same.symm (h : cache.Same other) : other.Same cache :=
  ⟨h.capacity.symm, h.clock.symm, h.hits.symm, h.misses.symm, h.entries.symm⟩

theorem Same.trans (h : cache.Same other) (h' : other.Same reference) : cache.Same reference :=
  ⟨h.capacity.trans h'.capacity, h.clock.trans h'.clock, h.hits.trans h'.hits,
    h.misses.trans h'.misses, h.entries.trans h'.entries⟩

theorem Same.nodup_patterns (h : cache.Same reference) (hordered : reference.Ordered) :
    (patterns cache.entries).Nodup :=
  (h.entries.map _).nodup_iff.mpr hordered.patterns

/-- A look finds the same, however the entries are listed. -/
theorem Same.get? (h : cache.Same reference) (hordered : reference.Ordered) (pattern : Text) :
    cache.get? pattern = reference.get? pattern := by
  apply Option.ext
  intro found
  rw [get?_eq_some_iff (h.nodup_patterns hordered), get?_eq_some_iff hordered.patterns]
  exact h.entries.mem_iff

/-- **The oldest tick is the end of the order**: making room drops what falls off at the end. -/
theorem Ordered.makeRoom_perm (hordered : reference.Ordered) {entries : List Entry}
    (hperm : entries.Perm reference.entries) :
    (makeRoom reference.capacity entries).Perm
      (reference.entries.take (reference.capacity - 1)) := by
  obtain ⟨hpos, hsize, hpatterns, hrecency, -⟩ := hordered
  rw [makeRoom, hperm.length_eq]
  split
  · rw [List.take_of_length_le (by omega)]
    exact hperm
  rename_i hfull
  rcases List.eq_nil_or_concat reference.entries with hnil | ⟨kept, last, hlast⟩
  · rw [hnil] at hfull
    exact absurd hpos hfull
  rw [List.concat_eq_append] at hlast
  rw [hlast] at hperm hpatterns hrecency hsize hfull ⊢
  -- every other entry is later, and the oldest one is somewhere among them
  have holdest : oldest? entries = some last := by
    cases holdest : oldest? entries with
    | none =>
      rw [oldest?_eq_none_iff.mp holdest] at hperm
      simpa using hperm.length_eq
    | some oldest =>
      obtain ⟨hmem, hle⟩ := oldest?_spec holdest
      have hlater := (List.pairwise_append.mp hrecency).2.2
      rcases List.mem_append.mp (hperm.mem_iff.mp hmem) with hkept | hsame
      · have := hlater oldest hkept last (by simp)
        have := hle last (hperm.mem_iff.mpr (by simp))
        omega
      · rw [List.mem_singleton.mp hsame]
  have hkept : (kept ++ [last]).filter (·.1 ≠ last.1) = kept := by
    rw [Cache.patterns, List.map_append] at hpatterns
    have hnot : last.1 ∉ Cache.patterns kept := fun hmem =>
      List.disjoint_of_nodup_append hpatterns hmem (by simp)
    rw [List.filter_append, List.filter_cons_of_neg (by simp), List.filter_nil, List.append_nil,
      without_of_notMem hnot]
  have hlength : reference.capacity - 1 = kept.length := by
    simp only [List.length_append, List.length_singleton] at hsize hfull
    omega
  simp only [holdest]
  rw [hlength, List.take_left]
  have hfilter := hperm.filter fun entry => entry.1 ≠ last.1
  rwa [hkept] at hfilter

/-- **A request** is given the same program by two caches that differ at most in order, and leaves
them so. -/
theorem Same.request (h : cache.Same reference) (hordered : reference.Ordered) (pattern : Text) :
    (cache.request pattern).1 = (reference.requestInOrder pattern).1 ∧
      (cache.request pattern).2.Same (reference.requestInOrder pattern).2 := by
  have hpatterns := h.nodup_patterns hordered
  have hget := h.get? hordered pattern
  obtain ⟨hhits, hmisses⟩ := counters_request cache pattern
  cases hfound : reference.get? pattern with
  | some found =>
    rw [hfound] at hget
    have hmem : pattern ∈ patterns cache.entries := mem_patterns (mem_of_get? hget)
    simp only [if_pos hmem, Nat.add_zero] at hhits hmisses
    obtain ⟨hprogram, hentries⟩ := request_of_some hpatterns hget
    -- what is asked for was one of the entries, so it fits with the others
    have hfits : (reference.entries.filter (·.1 ≠ pattern)).length + 1 ≤ reference.capacity :=
      Nat.le_trans (length_without_lt (mem_of_get? hfound)) hordered.size
    simp only [requestInOrder, hfound]
    refine ⟨hprogram, capacity_serve.trans h.capacity, ?_, ?_, ?_, ?_⟩
    · rw [clock_request, h.clock]
    · rw [hhits, h.hits]
    · rw [hmisses, h.misses]
    · rw [List.take_of_length_le hfits, ← h.clock]
      exact hentries.trans ((h.entries.filter _).cons _)
  | none =>
    rw [hfound] at hget
    have hnot : pattern ∉ patterns cache.entries := get?_eq_none_iff.mp hget
    simp only [if_neg hnot, Nat.add_zero] at hhits hmisses
    obtain ⟨hprogram, hentries⟩ := request_of_none hget
    have hothers : reference.entries.filter (·.1 ≠ pattern) = reference.entries :=
      without_of_notMem (get?_eq_none_iff.mp hfound)
    simp only [requestInOrder, hfound]
    refine ⟨hprogram, capacity_serve.trans h.capacity, ?_, ?_, ?_, ?_⟩
    · rw [clock_request, h.clock]
    · rw [hhits, h.hits]
    · rw [hmisses, h.misses]
    · rw [hothers, List.take_cons hordered.pos, ← h.clock]
      have hroom := hordered.makeRoom_perm h.entries
      rw [← h.capacity] at hroom ⊢
      exact hentries.trans (hroom.cons _)

/-- **A call** is given the same answer by two caches that differ at most in order, and leaves
them so. -/
theorem Same.perform (h : cache.Same reference) (hordered : reference.Ordered) (call : Call) :
    (cache.perform call).1 = (reference.performInOrder call).1 ∧
      (cache.perform call).2.Same (reference.performInOrder call).2 := by
  cases call with
  | request pattern =>
    obtain ⟨hprogram, hsame⟩ := h.request hordered pattern
    exact ⟨congrArg Answer.program hprogram, hsame⟩
  | get pattern => exact ⟨congrArg Answer.entry (h.get? hordered pattern), h⟩
  | size => exact ⟨congrArg Answer.size h.entries.length_eq, h⟩
  | stats =>
    have hstats : cache.stats = reference.stats := by
      rw [stats, stats, size, size, h.entries.length_eq, h.capacity, h.hits, h.misses]
    exact ⟨congrArg Answer.stats hstats, h⟩
  | clear => exact ⟨rfl, h.capacity, h.clock, h.hits, h.misses, .refl _⟩

/-- **All calls** are given the answers of the reference, in whatever order the entries are listed
at any time. -/
theorem Runs.same_lru {capacity : Nat} {calls : List Call} {answers : List Answer}
    (h : Runs (.new capacity) calls answers cache) :
    answers = (lru capacity calls).1 ∧ cache.Same (lru capacity calls).2 := by
  induction h with
  | nil => exact ⟨rfl, .refl _⟩
  | @call calls answers cache _ call ih =>
    obtain ⟨hanswers, hsame⟩ := ih
    -- the reference is in order whatever the calls were, so one call more cannot tell them apart
    obtain ⟨hanswer, hnext⟩ := hsame.perform (ordered_lru capacity calls) call
    refine ⟨?_, hnext⟩
    rw [hanswers, hanswer]
    rfl
  | @reorder _ _ cache _ entries hperm ih =>
    have hlisted : Same { cache with entries } cache := ⟨rfl, rfl, rfl, rfl, hperm⟩
    exact ⟨ih.1, hlisted.trans ih.2⟩

end Same

/-! ## What the reference holds -/

section Reference

variable (capacity : Nat) (calls : List Call)

@[simp] theorem capacity_lru : (lru capacity calls).2.capacity = max capacity 1 := by
  induction calls with
  | nil => rfl
  | cons call calls ih =>
    cases call with
    | request pattern =>
      simp only [lru, performInOrder, requestInOrder]
      split <;> exact ih
    | get _ | size | stats | clear => exact ih

/-- A request puts its pattern in front of the patterns that the reference holds. -/
theorem patterns_requestInOrder (cache : Cache) (pattern : Text) :
    patterns (cache.requestInOrder pattern).2.entries
      = (pattern :: (patterns cache.entries).filter (· ≠ pattern)).take cache.capacity := by
  have hfilter : patterns (cache.entries.filter (·.1 ≠ pattern))
      = (patterns cache.entries).filter (· ≠ pattern) := by
    rw [patterns, patterns, List.filter_map]
    rfl
  rw [requestInOrder, ← hfilter]
  split <;> exact List.map_take

/-- **The reference holds the latest patterns**, and holds them in that order. -/
theorem patterns_lru :
    patterns (lru capacity calls).2.entries = (recent calls).take (max capacity 1) := by
  induction calls with
  | nil => simp [lru, recent, requested, new, patterns]
  | cons call calls ih =>
    cases call with
    | request pattern =>
      calc patterns ((lru capacity calls).2.requestInOrder pattern).2.entries
        _ = (pattern :: ((recent calls).take (max capacity 1)).filter (· ≠ pattern)).take
              (max capacity 1) := by
          rw [patterns_requestInOrder, ih, capacity_lru]
        _ = (pattern :: (recent calls).filter (· ≠ pattern)).take (max capacity 1) :=
          take_cons_filter_take (nodup_eraseDups _) pattern _
        _ = (recent (.request pattern :: calls)).take (max capacity 1) := by
          rw [recent, recent, requested, eraseDups_cons_pattern]
    | clear => simp [lru, performInOrder, perform, clear, recent, requested, patterns]
    | get _ | size | stats => exact ih

/-- Looking leaves no trace. -/
theorem lru_filter_looks :
    (lru capacity (calls.filter (!·.looks))).2 = (lru capacity calls).2 := by
  induction calls with
  | nil => rfl
  | cons call calls ih =>
    cases call with
    | request pattern => exact congrArg (fun cache => (cache.requestInOrder pattern).2) ih
    | clear => exact congrArg Cache.clear ih
    | get _ | size | stats => exact ih

/-- Every tick of the clock is a hit or a miss. -/
theorem counters_lru :
    (lru capacity calls).2.hits + (lru capacity calls).2.misses = (lru capacity calls).2.clock := by
  induction calls with
  | nil => rfl
  | cons call calls ih =>
    cases call with
    | request pattern =>
      simp only [lru, performInOrder, requestInOrder]
      split <;> simp only <;> omega
    | get _ | size | stats | clear => exact ih

/-- The clock ticks once in a call at most. -/
theorem clock_lru_le : (lru capacity calls).2.clock ≤ calls.length := by
  induction calls with
  | nil => exact Nat.le_refl _
  | cons call calls ih =>
    cases call with
    | request pattern =>
      simp only [lru, performInOrder, requestInOrder, List.length_cons]
      split <;> exact Nat.succ_le_succ ih
    | get _ | size | stats | clear => exact Nat.le_succ_of_le ih

end Reference

/-- **A cache keeps the programs that were requested last.** Its patterns are the latest of those
that were requested since it was cleared, as many as fit. A request finds its program exactly if
its pattern was requested before and fewer others were requested after it than fit. A run without
its looks leaves the same, the answers and the entries do not depend on how the entries are
listed at any time, and no counter passes the number of calls. -/
theorem runs_lru {capacity : Nat} {calls : List Call} {answers : List Answer} {cache : Cache}
    (h : Runs (.new capacity) calls answers cache) :
    (patterns cache.entries).Perm ((recent calls).take (max capacity 1)) ∧
    cache.size = min (max capacity 1) (recent calls).length ∧
    (∀ pattern,
      let next := (cache.request pattern).2
      if pattern ∈ requested calls ∧
          ((requested calls).takeWhile (· ≠ pattern)).eraseDups.length < max capacity 1 then
        next.hits = cache.hits + 1 ∧ next.misses = cache.misses
      else next.hits = cache.hits ∧ next.misses = cache.misses + 1) ∧
    (∀ answers' cache', Runs (.new capacity) (calls.filter (!·.looks)) answers' cache' →
      cache.Same cache') ∧
    (∀ answers' cache', Runs (.new capacity) calls answers' cache' →
      answers' = answers ∧ cache.Same cache') ∧
    cache.hits + cache.misses = cache.clock ∧ cache.clock ≤ calls.length := by
  obtain ⟨hanswers, hsame⟩ := h.same_lru
  have hpatterns : (patterns cache.entries).Perm ((recent calls).take (max capacity 1)) :=
    patterns_lru capacity calls ▸ hsame.entries.map _
  refine ⟨hpatterns, ?_, ?_, ?_, ?_, ?_, ?_⟩
  · have hlength := hpatterns.length_eq
    rwa [List.length_take, patterns, List.length_map] at hlength
  · intro pattern next
    have hmem : pattern ∈ patterns cache.entries ↔ pattern ∈ requested calls ∧
        ((requested calls).takeWhile (· ≠ pattern)).eraseDups.length < max capacity 1 :=
      hpatterns.mem_iff.trans (mem_take_eraseDups _)
    have hcounters := counters_request cache pattern
    simp only [hmem] at hcounters
    split at hcounters
    · rwa [if_pos ‹_›]
    · rwa [if_neg ‹_›]
  · intro answers' cache' h'
    -- both caches are the reference, which takes no notice of looks
    have hlooks := h'.same_lru.2
    rw [lru_filter_looks] at hlooks
    exact hsame.trans hlooks.symm
  · intro answers' cache' h'
    obtain ⟨hanswers', hsame'⟩ := h'.same_lru
    exact ⟨hanswers'.trans hanswers.symm, hsame.trans hsame'.symm⟩
  · rw [hsame.hits, hsame.misses, hsame.clock]
    exact counters_lru capacity calls
  · rw [hsame.clock]
    exact clock_lru_le capacity calls

/-- Three patterns in a cache for two, which lists its entries the other way round in between. The
look at `b` does not save it: `a` was requested again after it. -/
theorem runs_lru_three :
    ∃ answers cache,
      Runs (.new 2) [.request ['c'], .get ['b'], .request ['a'], .request ['b'], .request ['a']]
        answers cache ∧
      (patterns cache.entries).Perm [['c'], ['a']] ∧ cache.size = 2 ∧
      (cache.request ['a']).2.hits = cache.hits + 1 ∧
      (cache.request ['b']).2.misses = cache.misses + 1 := by
  have hnew : Runs (.new 2) [] [] (.new 2) := .nil
  have htwo := (hnew.call (.request ['a'])).call (.request ['b'])
  have hturned := htwo.reorder (List.reverse_perm _)
  have h := ((hturned.call (.request ['a'])).call (.get ['b'])).call (.request ['c'])
  obtain ⟨hpatterns, hsize, hrequest, -⟩ := runs_lru h
  have hhit := hrequest ['a']
  have hmiss := hrequest ['b']
  rw [if_pos (by decide)] at hhit
  rw [if_neg (by decide)] at hmiss
  exact ⟨_, _, h, hpatterns, hsize, hhit.1, hmiss.2⟩

end Rowwise.Cache
