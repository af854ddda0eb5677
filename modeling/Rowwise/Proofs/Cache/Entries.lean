import Mathlib.Data.List.Nodup
import Rowwise.Cache.Basic

/-!
# Cache — Entries

What looking, making room and serving do to the entries of a cache, said up to their order: the
order in which a cache lists its entries means nothing, and no fact here depends on it. After a
request the entries are the one that was asked for, with the tick of the request, and those that
were kept (`entries_serve_of_some`, `entries_serve_of_none`).
-/

namespace Rowwise.Cache

/-- A pattern with its program. -/
abbrev Entry := Text × CachedProgram

/-- The patterns of some entries. -/
def patterns (entries : List Entry) : List Text :=
  entries.map Prod.fst

/-- The ticks of some entries. -/
def ticks (entries : List Entry) : List Nat :=
  entries.map fun entry => entry.2.tick

theorem mem_patterns {entries : List Entry} {entry : Entry} (h : entry ∈ entries) :
    entry.1 ∈ patterns entries :=
  List.mem_map_of_mem h

/-- A pattern without an entry takes no entry away. -/
theorem without_of_notMem {entries : List Entry} {pattern : Text}
    (h : pattern ∉ patterns entries) : entries.filter (·.1 ≠ pattern) = entries := by
  refine List.filter_eq_self.mpr fun entry hentry => ?_
  have hne : entry.1 ≠ pattern := fun he => h (he ▸ mem_patterns hentry)
  simpa using hne

theorem length_without_lt {entries : List Entry} {entry : Entry} (h : entry ∈ entries) :
    (entries.filter (·.1 ≠ entry.1)).length < entries.length :=
  List.length_filter_lt_length_iff_exists.mpr ⟨entry, h, by simp⟩

/-! ## Looking -/

theorem get?_eq_none_iff {cache : Cache} {pattern : Text} :
    cache.get? pattern = none ↔ pattern ∉ patterns cache.entries := by
  rw [get?, List.lookup_eq_none_iff, patterns]
  simp only [bne_iff_ne, List.mem_map, not_exists, not_and]
  exact ⟨fun h entry hentry he => h entry hentry he.symm,
    fun h entry hentry he => h entry hentry he.symm⟩

theorem mem_of_get? {cache : Cache} {pattern : Text} {found : CachedProgram}
    (h : cache.get? pattern = some found) : (pattern, found) ∈ cache.entries := by
  obtain ⟨before, after, hentries, -⟩ := List.lookup_eq_some_iff.mp h
  simp [hentries]

/-- A pattern has at most one entry, so looking finds it wherever it stands. -/
theorem get?_eq_some_iff {cache : Cache} (hpatterns : (patterns cache.entries).Nodup)
    {pattern : Text} {found : CachedProgram} :
    cache.get? pattern = some found ↔ (pattern, found) ∈ cache.entries := by
  refine ⟨mem_of_get?, fun h => ?_⟩
  cases hget : cache.get? pattern with
  | none => exact absurd (mem_patterns h) (get?_eq_none_iff.mp hget)
  | some other =>
    have hsame := List.inj_on_of_nodup_map hpatterns (mem_of_get? hget) h rfl
    rw [(Prod.mk.inj hsame).2]

/-! ## The oldest entry -/

theorem oldest?_eq_none_iff {entries : List Entry} : oldest? entries = none ↔ entries = [] := by
  cases entries with
  | nil => simp [oldest?]
  | cons entry rest =>
    rw [oldest?]
    cases oldest? rest <;> simp

theorem oldest?_spec {entries : List Entry} {oldest : Entry} (h : oldest? entries = some oldest) :
    oldest ∈ entries ∧ ∀ entry ∈ entries, oldest.2.tick ≤ entry.2.tick := by
  induction entries generalizing oldest with
  | nil => simp [oldest?] at h
  | cons entry rest ih =>
    rw [oldest?] at h
    cases hrest : oldest? rest with
    | none =>
      obtain rfl := oldest?_eq_none_iff.mp hrest
      simp only [hrest, Option.some.injEq] at h
      subst h
      exact ⟨List.mem_cons_self, by simp⟩
    | some other =>
      obtain ⟨hmem, hle⟩ := ih hrest
      simp only [hrest, Option.some.injEq] at h
      by_cases hlt : other.2.tick < entry.2.tick
      · rw [if_pos hlt] at h
        subst h
        refine ⟨List.mem_cons_of_mem _ hmem, ?_⟩
        intro x hx
        rcases List.mem_cons.mp hx with rfl | hx
        · omega
        · exact hle x hx
      · rw [if_neg hlt] at h
        subst h
        refine ⟨List.mem_cons_self, ?_⟩
        intro x hx
        rcases List.mem_cons.mp hx with rfl | hx
        · omega
        · have := hle x hx
          omega

/-- With different ticks, no other entry is as old. -/
theorem oldest?_lt {entries : List Entry} (hticks : (ticks entries).Nodup) {oldest entry : Entry}
    (holdest : oldest? entries = some oldest) (hentry : entry ∈ entries) (hne : entry ≠ oldest) :
    oldest.2.tick < entry.2.tick := by
  obtain ⟨hmem, hle⟩ := oldest?_spec holdest
  have hticks' : entry.2.tick ≠ oldest.2.tick := fun h =>
    hne (List.inj_on_of_nodup_map hticks hentry hmem h)
  have := hle entry hentry
  omega

/-! ## Making room -/

theorem makeRoom_sublist (capacity : Nat) (entries : List Entry) :
    (makeRoom capacity entries).Sublist entries := by
  unfold makeRoom
  split
  · exact .refl _
  · split
    · exact List.filter_sublist
    · exact .refl _

theorem length_makeRoom_lt {capacity : Nat} {entries : List Entry} (hpos : 0 < capacity)
    (hsize : entries.length ≤ capacity) : (makeRoom capacity entries).length < capacity := by
  unfold makeRoom
  split
  · assumption
  · split
    · rename_i pattern program holdest
      exact Nat.lt_of_lt_of_le (length_without_lt (oldest?_spec holdest).1) hsize
    · rename_i holdest
      rw [oldest?_eq_none_iff.mp holdest]
      exact hpos

/-! ## Serving -/

section Serve

variable {cache : Cache} {tick : Nat} {pattern : Text}

theorem serve_of_some {found : CachedProgram} (h : cache.get? pattern = some found) :
    cache.serve tick pattern = (found.program, { cache with
      entries := cache.entries.map fun entry =>
        if entry.1 = pattern then (entry.1, touch tick entry.2) else entry
      hits := cache.hits + 1 }) := by
  rw [serve, h]

theorem serve_of_none (h : cache.get? pattern = none) :
    cache.serve tick pattern = (.ofProgram (Pattern.compile pattern), { cache with
      entries := makeRoom cache.capacity cache.entries ++
        [(pattern, ⟨.ofProgram (Pattern.compile pattern), 0, none, tick⟩)]
      misses := cache.misses + 1 }) := by
  rw [serve, h]

@[simp] theorem capacity_serve : (cache.serve tick pattern).2.capacity = cache.capacity := by
  rw [serve]
  split <;> rfl

@[simp] theorem clock_serve : (cache.serve tick pattern).2.clock = cache.clock := by
  rw [serve]
  split <;> rfl

/-- A request is a hit if its pattern has an entry, and a miss otherwise. -/
theorem counters_serve (cache : Cache) (tick : Nat) (pattern : Text) :
    (cache.serve tick pattern).2.hits
      = cache.hits + (if pattern ∈ patterns cache.entries then 1 else 0) ∧
    (cache.serve tick pattern).2.misses
      = cache.misses + (if pattern ∈ patterns cache.entries then 0 else 1) := by
  cases hget : cache.get? pattern with
  | some found =>
    have hmem : pattern ∈ patterns cache.entries := mem_patterns (mem_of_get? hget)
    simp [serve_of_some hget, hmem]
  | none => simp [serve_of_none hget, get?_eq_none_iff.mp hget]

theorem map_touch_perm {entries : List Entry} (hpatterns : (patterns entries).Nodup)
    {found : CachedProgram} (hfound : (pattern, found) ∈ entries) :
    (entries.map fun entry => if entry.1 = pattern then (entry.1, touch tick entry.2) else entry).Perm
      ((pattern, touch tick found) :: entries.filter (·.1 ≠ pattern)) := by
  obtain ⟨before, after, rfl⟩ := List.append_of_mem hfound
  have hnodup : (pattern :: (patterns before ++ patterns after)).Nodup := by
    rw [← List.nodup_middle]
    simpa only [patterns, List.map_append, List.map_cons] using hpatterns
  have hnot := (List.nodup_cons.mp hnodup).1
  -- no other entry has the pattern, so the others stay as they are
  have hmap : ∀ part : List Entry, pattern ∉ patterns part →
      (part.map fun entry => if entry.1 = pattern then (entry.1, touch tick entry.2) else entry)
        = part := by
    intro part hpart
    refine (List.map_congr_left fun entry hentry => if_neg ?_).trans (List.map_id part)
    exact fun he => hpart (he ▸ mem_patterns hentry)
  have hbefore : pattern ∉ patterns before := fun h => hnot (List.mem_append_left _ h)
  have hafter : pattern ∉ patterns after := fun h => hnot (List.mem_append_right _ h)
  rw [List.map_append, List.map_cons, hmap before hbefore, hmap after hafter, if_pos rfl,
    List.filter_append, List.filter_cons_of_neg (by simp), without_of_notMem hbefore,
    without_of_notMem hafter]
  exact List.perm_middle

/-- **A hit** keeps every entry and stamps the one that was asked for. -/
theorem entries_serve_of_some (tick : Nat) (hpatterns : (patterns cache.entries).Nodup)
    {found : CachedProgram} (h : cache.get? pattern = some found) :
    (cache.serve tick pattern).2.entries.Perm
      ((pattern, touch tick found) :: cache.entries.filter (·.1 ≠ pattern)) := by
  rw [serve_of_some h]
  exact map_touch_perm hpatterns (mem_of_get? h)

/-- **A miss** makes room and adds an entry that has not been served again. -/
theorem entries_serve_of_none (tick : Nat) (h : cache.get? pattern = none) :
    (cache.serve tick pattern).2.entries.Perm
      ((pattern, ⟨.ofProgram (Pattern.compile pattern), 0, none, tick⟩) ::
        makeRoom cache.capacity cache.entries) := by
  rw [serve_of_none h]
  exact List.perm_append_singleton _ _

/-- **What a request leaves**: one entry for its pattern, with its tick, and some of the other
entries, never too many. -/
theorem exists_entries_serve (tick : Nat) (pattern : Text)
    (hpatterns : (patterns cache.entries).Nodup) (hpos : 0 < cache.capacity)
    (hsize : cache.entries.length ≤ cache.capacity) :
    ∃ program kept, (cache.serve tick pattern).2.entries.Perm ((pattern, program) :: kept) ∧
      program.tick = tick ∧ kept.Sublist cache.entries ∧ (∀ entry ∈ kept, entry.1 ≠ pattern) ∧
      kept.length < cache.capacity := by
  cases hget : cache.get? pattern with
  | some found =>
    refine ⟨_, _, entries_serve_of_some tick hpatterns hget, rfl, List.filter_sublist, by simp, ?_⟩
    exact Nat.lt_of_lt_of_le (length_without_lt (mem_of_get? hget)) hsize
  | none =>
    have hsublist := makeRoom_sublist cache.capacity cache.entries
    refine ⟨_, _, entries_serve_of_none tick hget, rfl, hsublist, ?_, length_makeRoom_lt hpos hsize⟩
    intro entry hentry he
    exact get?_eq_none_iff.mp hget (he ▸ mem_patterns (hsublist.mem hentry))

end Serve

end Rowwise.Cache
