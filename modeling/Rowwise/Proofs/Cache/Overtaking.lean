import Rowwise.Proofs.Cache.Interleaving

/-!
# Cache — Overtaking

Which entry makes room when requests overtake each other. A request is stamped with the tick that it
took, not with the moment at which it is served; so the order of the ticks is the order in which the
latest requests of the entries were made, and the entry that goes is the first in that order
(`evicts_by_ticks`). It need not be the entry that was served longest ago: a request that is served
late leaves an early tick (`evicts_despite_recency`).

The order in which requests are served is kept in a log beside the states that a cache comes to
(`Logged`). The invariant is that an entry carries the tick of the latest request in the log for its
pattern (`Logged.latest`), and that no request is served twice (`Logged.nodup`), so that of two
requests one came first.
-/

namespace Rowwise.Cache

/-! ## The log of served requests -/

/-- The latest request for a pattern in a log, which has its latest request first. -/
def latest? (pattern : Text) (log : List Ticket) : Option Ticket :=
  log.find? (·.pattern = pattern)

/-- How many requests were served after the latest one for a pattern. -/
def age (pattern : Text) (log : List Ticket) : Nat :=
  (log.takeWhile (·.pattern ≠ pattern)).length

/-- A request overtook another one: it took its tick later and was served earlier. -/
def Overtook (log : List Ticket) (early late : Ticket) : Prop :=
  [late, early].Sublist log ∧ late.tick < early.tick

namespace World

/-- The states that a new cache can come to, each with the requests that were served, the latest
first. -/
inductive Logged (capacity : Nat) : World → List Ticket → Prop
  | start : Logged capacity (start capacity) []
  | take {w : World} {log : List Ticket} (h : Logged capacity w log) (pattern : Text) :
    Logged capacity (w.take pattern) log
  | serve {w : World} {log : List Ticket} (h : Logged capacity w log) {ticket : Ticket}
    (hwaiting : ticket ∈ w.waiting) : Logged capacity (w.serve ticket) (ticket :: log)
  | look {w : World} {log : List Ticket} (h : Logged capacity w log) (pattern : Text) :
    Logged capacity (w.look pattern) log
  | clear {w : World} {log : List Ticket} (h : Logged capacity w log) :
    Logged capacity w.clear log
  | reorder {w : World} {log : List Ticket} (h : Logged capacity w log) {entries : List Entry}
    (hperm : entries.Perm w.cache.entries) : Logged capacity (w.reorder entries) log

/-- Serving a request takes an entry out of the cache. -/
def Evicts (w : World) (ticket : Ticket) (entry : Entry) : Prop :=
  entry ∈ w.cache.entries ∧ entry.1 ∉ patterns (w.serve ticket).cache.entries

variable {capacity : Nat} {w : World} {log : List Ticket} {ticket : Ticket} {entry evicted : Entry}

theorem Logged.reachable (h : Logged capacity w log) : Reachable capacity w := by
  induction h with
  | start => exact .start
  | take _ pattern ih => exact ih.step (.take pattern)
  | serve _ hwaiting ih => exact ih.step (.serve _ hwaiting)
  | look _ pattern ih => exact ih.step (.look pattern)
  | clear _ ih => exact ih.step .clear
  | reorder _ hperm ih => exact ih.step (.reorder _ hperm)

/-- Every state has a log. -/
theorem Reachable.exists_logged (h : Reachable capacity w) : ∃ log, Logged capacity w log := by
  induction h with
  | start => exact ⟨[], .start⟩
  | step _ hstep ih =>
    obtain ⟨log, hlog⟩ := ih
    cases hstep with
    | take pattern => exact ⟨log, hlog.take pattern⟩
    | serve ticket hwaiting => exact ⟨ticket :: log, hlog.serve hwaiting⟩
    | look pattern => exact ⟨log, hlog.look pattern⟩
    | clear => exact ⟨log, hlog.clear⟩
    | reorder entries hperm => exact ⟨log, hlog.reorder hperm⟩

/-- Each request, waiting or served, has taken a tick of its own from the clock. -/
structure Issued (w : World) (log : List Ticket) : Prop where
  ticks : ((w.waiting ++ log).map Ticket.tick).Nodup
  clock : ∀ ticket ∈ w.waiting ++ log, ticket.tick < w.cache.clock

theorem Issued.take (h : Issued w log) (pattern : Text) : Issued (w.take pattern) log where
  ticks := by
    refine List.nodup_cons.mpr ⟨?_, h.ticks⟩
    intro hmem
    obtain ⟨ticket, hticket, htick⟩ := List.mem_map.mp hmem
    exact Nat.lt_irrefl _ (htick ▸ h.clock ticket hticket)
  clock := by
    intro ticket hticket
    rcases List.mem_cons.mp hticket with rfl | hticket
    · exact Nat.lt_succ_self _
    · exact Nat.lt_succ_of_lt (h.clock ticket hticket)

/-- Serving moves a request from those that wait to the log. -/
theorem Issued.serve (h : Issued w log) (hwaiting : ticket ∈ w.waiting) :
    Issued (w.serve ticket) (ticket :: log) := by
  have hperm : (w.waiting.erase ticket ++ ticket :: log).Perm (w.waiting ++ log) :=
    List.perm_middle.trans ((List.perm_cons_erase hwaiting).symm.append_right log)
  have hclock : (w.serve ticket).cache.clock = w.cache.clock := clock_serve
  refine ⟨(hperm.map _).nodup_iff.mpr h.ticks, fun other hother => ?_⟩
  rw [hclock]
  exact h.clock other (hperm.mem_iff.mp hother)

theorem Logged.issued (h : Logged capacity w log) : Issued w log := by
  induction h with
  | start => exact ⟨List.nodup_nil, fun _ hticket => absurd hticket List.not_mem_nil⟩
  | take _ pattern ih => exact ih.take pattern
  | serve _ hwaiting ih => exact ih.serve hwaiting
  | look _ _ ih => exact ⟨ih.ticks, ih.clock⟩
  | clear _ ih => exact ⟨ih.ticks, ih.clock⟩
  | reorder _ _ ih => exact ⟨ih.ticks, ih.clock⟩

/-- No request is served twice. -/
theorem Logged.nodup (h : Logged capacity w log) : log.Nodup :=
  (List.Nodup.of_map _ h.issued.ticks).of_append_right

/-! ## The tick of an entry -/

/-- **Serving keeps the ticks of the log**: the entry that was asked for has the tick of the new
request, and the others are what they were. -/
theorem latest_serve (hw : Consistent capacity w) (ticket : Ticket)
    (h : ∀ entry ∈ w.cache.entries, latest? entry.1 log = some ⟨entry.2.tick, entry.1⟩) :
    ∀ entry ∈ (w.serve ticket).cache.entries,
      latest? entry.1 (ticket :: log) = some ⟨entry.2.tick, entry.1⟩ := by
  obtain ⟨program, kept, hperm, htick, hkept, hothers, -⟩ :=
    exists_entries_serve ticket.tick ticket.pattern hw.patterns hw.pos hw.size
  intro entry hentry
  rcases List.mem_cons.mp (hperm.mem_iff.mp hentry) with rfl | hold
  · rw [latest?, List.find?_cons_of_pos (by simp), htick]
  · have hne : ticket.pattern ≠ entry.1 := (hothers entry hold).symm
    rw [latest?, List.find?_cons_of_neg (by simpa using hne)]
    exact h entry (hkept.mem hold)

/-- An entry carries the tick of the latest request for its pattern. -/
theorem Logged.latest (h : Logged capacity w log) :
    ∀ entry ∈ w.cache.entries, latest? entry.1 log = some ⟨entry.2.tick, entry.1⟩ := by
  induction h with
  | start => exact fun _ hentry => absurd hentry List.not_mem_nil
  | take _ _ ih => exact ih
  | serve hlogged _ ih => exact latest_serve hlogged.reachable.consistent _ ih
  | look _ _ ih => exact ih
  | clear => exact fun _ hentry => absurd hentry List.not_mem_nil
  | reorder _ hperm ih => exact fun entry hentry => ih entry (hperm.mem_iff.mp hentry)

/-! ## The entry that makes room -/

/-- A hit takes no entry out. -/
theorem not_evicts_of_some {found : CachedProgram}
    (h : w.cache.get? ticket.pattern = some found) : ¬ w.Evicts ticket evicted := by
  rintro ⟨hmem, hgone⟩
  have hsame : patterns (w.serve ticket).cache.entries = patterns w.cache.entries := by
    rw [World.serve, serve_of_some h, patterns, patterns, List.map_map]
    refine List.map_congr_left fun entry _ => ?_
    rw [Function.comp_apply]
    split <;> rfl
  exact hgone (hsame ▸ mem_patterns hmem)

/-- Only the oldest entry is ever taken out. -/
theorem Evicts.oldest? (hw : Consistent capacity w) (h : w.Evicts ticket evicted) :
    oldest? w.cache.entries = some evicted := by
  cases hget : w.cache.get? ticket.pattern with
  | some found => exact absurd h (not_evicts_of_some hget)
  | none =>
    obtain ⟨hmem, hgone⟩ := h
    have hperm := entries_serve_of_none ticket.tick hget
    have hdropped : evicted ∉ makeRoom w.cache.capacity w.cache.entries := fun hkept =>
      hgone (mem_patterns (hperm.mem_iff.mpr (List.mem_cons_of_mem _ hkept)))
    unfold makeRoom at hdropped
    split at hdropped
    · exact absurd hmem hdropped
    split at hdropped
    · next pattern program holdest =>
      have hpattern : evicted.1 = pattern := by
        by_contra hne
        exact hdropped (List.mem_filter.mpr ⟨hmem, by simpa using hne⟩)
      have hsame := List.inj_on_of_nodup_map hw.patterns hmem (oldest?_spec holdest).1 hpattern
      rw [holdest, hsame]
    · exact absurd hmem hdropped

end World

/-- Of two patterns, the one with fewer requests after its latest one was served later. -/
theorem age_lt_or_lt {log : List Ticket} {p q : Text} {a b : Ticket} (hne : p ≠ q)
    (ha : latest? p log = some a) (hb : latest? q log = some b) :
    (age p log < age q log ∧ [a, b].Sublist log) ∨
      (age q log < age p log ∧ [b, a].Sublist log) := by
  induction log with
  | nil => simp [latest?] at ha
  | cons ticket log ih =>
    by_cases hp : ticket.pattern = p
    · have hq : ticket.pattern ≠ q := hp ▸ hne
      rw [latest?, List.find?_cons_of_pos (by simpa using hp)] at ha
      rw [latest?, List.find?_cons_of_neg (by simpa using hq)] at hb
      obtain rfl := Option.some.inj ha
      refine .inl ⟨by simp [age, hp, hne], ?_⟩
      exact (List.singleton_sublist.mpr (List.mem_of_find?_eq_some hb)).cons_cons ticket
    · rw [latest?, List.find?_cons_of_neg (by simpa using hp)] at ha
      by_cases hq : ticket.pattern = q
      · rw [latest?, List.find?_cons_of_pos (by simpa using hq)] at hb
        obtain rfl := Option.some.inj hb
        refine .inr ⟨by simp [age, hq, hne.symm], ?_⟩
        exact (List.singleton_sublist.mpr (List.mem_of_find?_eq_some ha)).cons_cons ticket
      · rw [latest?, List.find?_cons_of_neg (by simpa using hq)] at hb
        have hage : ∀ pattern, ticket.pattern ≠ pattern →
            age pattern (ticket :: log) = age pattern log + 1 := fun pattern h => by
          simp [age, h]
        rw [hage p hp, hage q hq, Nat.add_lt_add_iff_right, Nat.add_lt_add_iff_right]
        exact (ih ha hb).imp (.imp_right (.cons ticket)) (.imp_right (.cons ticket))

/-- Of two requests in a log, one was served first. -/
theorem not_sublist_swap {log : List Ticket} {a b : Ticket} (hnodup : log.Nodup)
    (hab : [a, b].Sublist log) : ¬ [b, a].Sublist log := by
  induction log with
  | nil => nomatch hab
  | cons ticket log ih =>
    obtain ⟨hnot, hlog⟩ := List.nodup_cons.mp hnodup
    intro hba
    -- the latest request of the log can be one of the two only in one order
    cases hab with
    | cons _ hab =>
      cases hba with
      | cons _ hba => exact ih hlog hab hba
      | cons_cons _ _ => exact hnot (hab.subset (List.mem_cons_of_mem a List.mem_cons_self))
    | cons_cons _ hb =>
      cases hba with
      | cons _ hba => exact hnot (hba.subset (List.mem_cons_of_mem b List.mem_cons_self))
      | cons_cons _ _ => exact hnot (hb.subset List.mem_cons_self)

open World in
/-- **The entry that goes is the one whose latest request took its tick first.** Whatever the callers
do: when a request takes an entry out, then the latest request for every other entry has a later
tick. Where that request overtook the one for the entry that goes, the entry that goes was served
later than the other; where it did not, the entry that goes was served longer ago. -/
theorem evicts_by_ticks {capacity : Nat} {w : World} {log : List Ticket} {ticket : Ticket}
    {evicted entry : Entry} (h : Logged capacity w log) (hevicts : w.Evicts ticket evicted)
    (hentry : entry ∈ w.cache.entries) (hne : entry ≠ evicted) :
    ∃ last other, latest? evicted.1 log = some last ∧ latest? entry.1 log = some other ∧
      last.tick < other.tick ∧
      (Overtook log other last → age evicted.1 log < age entry.1 log) ∧
      (¬ Overtook log other last → age entry.1 log < age evicted.1 log) := by
  have hw := h.reachable.consistent
  have hticks : (ticks w.cache.entries).Nodup := hw.ticks.of_append_right
  have hlt := oldest?_lt hticks (hevicts.oldest? hw) hentry hne
  have hpatterns : evicted.1 ≠ entry.1 := fun hsame =>
    hne (List.inj_on_of_nodup_map hw.patterns hentry hevicts.1 hsame.symm)
  have hlast := h.latest evicted hevicts.1
  have hother := h.latest entry hentry
  refine ⟨_, _, hlast, hother, hlt, ?_⟩
  rcases age_lt_or_lt hpatterns hlast hother with ⟨hage, hserved⟩ | ⟨hage, hserved⟩
  · exact ⟨fun _ => hage, fun hnot => absurd ⟨hserved, hlt⟩ hnot⟩
  · exact ⟨fun hovertook => absurd hovertook.1 (not_sublist_swap h.nodup hserved), fun _ => hage⟩

/-! ## An entry that was served last, and goes -/

/-- The entry that a request with a tick leaves when its pattern has none. -/
def inserted (tick : Nat) (pattern : Text) : Entry :=
  (pattern, ⟨.ofProgram (Pattern.compile pattern), 0, none, tick⟩)

/-- Two requests that are served in the order opposite to that of their ticks fill a cache for two,
and a third one takes its tick. -/
def crossed : World :=
  World.start 2 |>.take ['a'] |>.take ['b'] |>.serve ⟨1, ['b']⟩ |>.serve ⟨0, ['a']⟩ |>.take ['c']

theorem logged_crossed : World.Logged 2 crossed [⟨0, ['a']⟩, ⟨1, ['b']⟩] :=
  .take (.serve (.serve (.take (.take .start ['a']) ['b']) (by decide)) (by decide)) ['c']

theorem evicts_crossed : crossed.Evicts ⟨2, ['c']⟩ (inserted 0 ['a']) :=
  ⟨List.mem_cons_of_mem (inserted 1 ['b']) List.mem_cons_self, by decide⟩

theorem other_crossed :
    inserted 1 ['b'] ∈ crossed.cache.entries ∧ inserted 1 ['b'] ≠ inserted 0 ['a'] :=
  ⟨List.mem_cons_self, fun h => absurd (congrArg Prod.fst h) (by decide)⟩

theorem overtook_crossed : Overtook [⟨0, ['a']⟩, ⟨1, ['b']⟩] ⟨1, ['b']⟩ ⟨0, ['a']⟩ :=
  ⟨.refl _, by decide⟩

/-- The request that was overtaken is the one whose entry goes, though it was served last. -/
theorem evicts_by_ticks_crossed :
    World.Logged 2 crossed [⟨0, ['a']⟩, ⟨1, ['b']⟩] ∧
      crossed.Evicts ⟨2, ['c']⟩ (inserted 0 ['a']) ∧
      inserted 1 ['b'] ∈ crossed.cache.entries ∧ inserted 1 ['b'] ≠ inserted 0 ['a'] ∧
      age ['a'] [⟨0, ['a']⟩, ⟨1, ['b']⟩] < age ['b'] [⟨0, ['a']⟩, ⟨1, ['b']⟩] := by
  obtain ⟨hentry, hne⟩ := other_crossed
  obtain ⟨last, other, hlast, hother, -, hrecent, -⟩ :=
    evicts_by_ticks logged_crossed evicts_crossed hentry hne
  obtain rfl : ⟨0, ['a']⟩ = last := Option.some.inj hlast
  obtain rfl : ⟨1, ['b']⟩ = other := Option.some.inj hother
  exact ⟨logged_crossed, evicts_crossed, hentry, hne, hrecent overtook_crossed⟩

/-- **An entry may go although another one was served longer ago**: after `a` and `b` took their ticks
and were served the other way round, `c` takes the place of `a`, which was served last. -/
theorem evicts_despite_recency :
    ¬ ∀ (capacity : Nat) (w : World) (log : List Ticket), World.Logged capacity w log →
      ∀ ticket ∈ w.waiting, ∀ evicted, w.Evicts ticket evicted →
        ∀ entry ∈ w.cache.entries, entry ≠ evicted → ¬ age evicted.1 log < age entry.1 log := by
  intro h
  obtain ⟨hentry, hne⟩ := other_crossed
  exact h 2 crossed _ logged_crossed ⟨2, ['c']⟩ (by decide) _ evicts_crossed _ hentry hne (by decide)

end Rowwise.Cache
