import Rowwise.Log.Channel

/-!
# Log — Accounting

What the subscribers of a channel get, over any history of subscribing, leaving, logging and
draining. The channel keeps a few items for all of them together, and for each subscriber only a
count. The main statement is that this is enough: what a subscriber was handed and what still waits
for it, with a gap of `k` for each report that `k` items are lost, are the items logged since it
subscribed, each once and in their order.

The invariant (`Channel.Behind`) says of one subscriber which items were logged since it was last
served: its count lies that many items back, and the channel still keeps the latest of them. One
action of whomever keeps it (`Behind.perform`), since a subscriber that joins, leaves or drains
touches no count but its own.
-/

namespace Rowwise.Log

variable {α : Type}

/-! ## Histories -/

/-- What can be done with a channel. Subscribers go by their numbers. -/
inductive Action (α : Type)
  | subscribe
  | unsubscribe (subscriber : Nat)
  | log (item : α)
  | drain (subscriber : Nat)

/-- The items that were logged. -/
def logged (actions : List (Action α)) : List α :=
  actions.filterMap fun
    | .log item => some item
    | .subscribe | .unsubscribe _ | .drain _ => none

/-- The items that wait for a subscriber after an action, if `items` waited before it. -/
def pending (subscriber : Nat) (items : List α) : Action α → List α
  | .log item => items ++ [item]
  | .drain other => if other = subscriber then [] else items
  | .subscribe | .unsubscribe _ => items

/-- The items that were logged since a subscriber last drained, or since the beginning. -/
def sinceDrain (subscriber : Nat) (actions : List (Action α)) : List α :=
  actions.foldl (pending subscriber) []

/-- What a single subscriber notices: an item, and that it drains itself. -/
inductive Notice (α : Type)
  | item (item : α)
  | drain

/-- What a subscriber notices of the actions. -/
def notices (subscriber : Nat) (actions : List (Action α)) : List (Notice α) :=
  actions.filterMap fun
    | .log item => some (.item item)
    | .drain other => if other = subscriber then some .drain else none
    | .subscribe | .unsubscribe _ => none

namespace Channel

/-- The channel after an action. -/
def perform (channel : Channel α) : Action α → Channel α
  | .subscribe => channel.subscribe.2
  | .unsubscribe subscriber => channel.unsubscribe subscriber
  | .log item => channel.send item
  | .drain subscriber => (channel.receive subscriber).2

/-- The channel after some actions. -/
def run (channel : Channel α) (actions : List (Action α)) : Channel α :=
  actions.foldl perform channel

/-- What an action hands to a subscriber. -/
def handed (subscriber : Nat) (channel : Channel α) : Action α → List (Delivery α)
  | .drain other => if other = subscriber then [(channel.receive other).1] else []
  | .subscribe | .unsubscribe _ | .log _ => []

/-- What some actions hand to a subscriber, one delivery for each time it drains. -/
def received (subscriber : Nat) : Channel α → List (Action α) → List (Delivery α)
  | _, [] => []
  | channel, action :: rest =>
    channel.handed subscriber action ++ received subscriber (channel.perform action) rest

end Channel

/-! ## Deliveries -/

namespace Delivery

/-- The delivery for a subscriber that some items wait for: the latest of them, and how many were
before those. -/
def ofItems (items : List α) : Delivery α :=
  ⟨items.length - capacity, items.drop (items.length - capacity)⟩

/-- Deliveries account for some items: put together they are those items, where a report that `k`
items are lost stands for `k` items. -/
inductive Account : List (Delivery α) → List α → Prop
  | nil : Account [] []
  | cons {delivery : Delivery α} {deliveries : List (Delivery α)} {lost items : List α}
      (hlost : lost.length = delivery.lost) (hmore : Account deliveries items) :
      Account (delivery :: deliveries) (lost ++ delivery.items ++ items)

/-- The delivery for some items accounts for them, before whatever is accounted for later. -/
theorem Account.cons_ofItems {deliveries : List (Delivery α)} {later : List α}
    (h : Account deliveries later) (items : List α) :
    Account (ofItems items :: deliveries) (items ++ later) := by
  have hlost : (items.take (items.length - capacity)).length = (ofItems items).lost := by
    rw [List.length_take_of_le (Nat.sub_le _ _), ofItems]
  have hsplit : items.take (items.length - capacity) ++ (ofItems items).items = items := by
    rw [ofItems, List.take_append_drop]
  have hcons := Account.cons hlost h
  rwa [hsplit] at hcons

/-- What a subscriber gets that some items wait for, said without a channel: at each drain, the
delivery for the items noticed since the one before. -/
def ofNotices : List α → List (Notice α) → List (Delivery α)
  | _, [] => []
  | items, .item item :: rest => ofNotices (items ++ [item]) rest
  | items, .drain :: rest => ofItems items :: ofNotices [] rest

end Delivery

/-! ## One subscriber -/

namespace Channel

open Delivery

/-- A subscriber is behind by some items: it has accounted for all that was sent before them, and
of them the channel keeps the latest. -/
structure Behind (channel : Channel α) (subscriber : Nat) (items : List α) : Prop where
  seen : ∃ seen, channel.seen[subscriber]? = some (some seen) ∧
    channel.sent = seen + items.length
  kept : channel.kept.take items.length = items.reverse.take capacity

/-- Who joins is not behind. -/
theorem behind_of_subscribe {channel joined : Channel α} {subscriber : Nat}
    (h : channel.subscribe = (subscriber, joined)) : joined.Behind subscriber [] := by
  obtain ⟨rfl, rfl⟩ := Prod.mk.inj h
  exact ⟨⟨channel.sent, by simp, rfl⟩, rfl⟩

namespace Behind

variable {channel : Channel α} {subscriber : Nat} {items : List α}

/-- **What a drain hands over** is fixed by the items that the subscriber is behind. -/
theorem receive (h : channel.Behind subscriber items) :
    (channel.receive subscriber).1 = ofItems items := by
  obtain ⟨seen, hseen, hsent⟩ := h.seen
  have hbehind : channel.sent - seen = items.length := by omega
  simp only [Channel.receive, hseen, waiting, hbehind, h.kept, ofItems]
  rw [List.reverse_take, List.reverse_reverse, List.length_reverse]

/-- Who has drained is not behind. -/
theorem drain (h : channel.Behind subscriber items) :
    (channel.receive subscriber).2.Behind subscriber [] := by
  obtain ⟨seen, hseen, -⟩ := h.seen
  obtain ⟨hbound, -⟩ := List.getElem?_eq_some_iff.mp hseen
  simp only [Channel.receive, hseen]
  exact ⟨⟨channel.sent, by simp [hbound], rfl⟩, rfl⟩

theorem send (h : channel.Behind subscriber items) (item : α) :
    (channel.send item).Behind subscriber (items ++ [item]) := by
  obtain ⟨seen, hseen, hsent⟩ := h.seen
  refine ⟨⟨seen, hseen, ?_⟩, ?_⟩
  · simp only [Channel.send, hsent, List.length_append, List.length_singleton, Nat.add_assoc]
  · -- the new item pushes out the oldest one, which is the one that the delivery leaves out
    have hcut : ∀ older : List α,
        (item :: older).take capacity = item :: older.take (capacity - 1) := fun _ => rfl
    have hless : capacity - 1 = min (capacity - 1) capacity := rfl
    simp only [Channel.send, List.length_append, List.length_singleton, List.reverse_append,
      List.reverse_singleton, List.singleton_append, hcut, List.take_succ_cons]
    rw [List.take_take, Nat.min_comm, ← List.take_take, h.kept, List.take_take, ← hless]

/-- Where a subscriber is does not change with the counts of the others. -/
theorem of_seen (h : channel.Behind subscriber items) {seen : List (Option Nat)}
    (hsame : ∀ count, channel.seen[subscriber]? = some count → seen[subscriber]? = some count) :
    Behind { channel with seen } subscriber items := by
  obtain ⟨count, hcount, hsent⟩ := h.seen
  exact ⟨⟨count, hsame _ hcount, hsent⟩, h.kept⟩

theorem subscribe (h : channel.Behind subscriber items) :
    channel.subscribe.2.Behind subscriber items := by
  apply h.of_seen
  intro count hcount
  obtain ⟨hbound, -⟩ := List.getElem?_eq_some_iff.mp hcount
  rw [List.getElem?_append_left hbound, hcount]

theorem unsubscribe_other (h : channel.Behind subscriber items) {other : Nat}
    (hother : other ≠ subscriber) : (channel.unsubscribe other).Behind subscriber items := by
  apply h.of_seen
  intro count hcount
  rw [List.getElem?_set_ne hother, hcount]

theorem drain_other (h : channel.Behind subscriber items) {other : Nat}
    (hother : other ≠ subscriber) : (channel.receive other).2.Behind subscriber items := by
  unfold Channel.receive
  split
  · apply h.of_seen
    intro count hcount
    rw [List.getElem?_set_ne hother, hcount]
  · exact h

/-- **One action of whomever** adds an item for the subscriber, serves it, or leaves it as it is. -/
theorem perform (h : channel.Behind subscriber items) {action : Action α}
    (hlive : action ≠ .unsubscribe subscriber) :
    (channel.perform action).Behind subscriber (pending subscriber items action) := by
  cases action with
  | subscribe => exact h.subscribe
  | unsubscribe other => exact h.unsubscribe_other fun heq => hlive (congrArg _ heq)
  | log item => exact h.send item
  | drain other =>
    by_cases hother : other = subscriber
    · subst hother
      simp only [pending, if_true]
      exact h.drain
    · simp only [pending, if_neg hother]
      exact h.drain_other hother

variable {actions : List (Action α)}

theorem run (h : channel.Behind subscriber items) (hlive : .unsubscribe subscriber ∉ actions) :
    (channel.run actions).Behind subscriber (actions.foldl (pending subscriber) items) := by
  induction actions generalizing channel items with
  | nil => exact h
  | cons action rest ih =>
    rw [List.mem_cons, not_or] at hlive
    exact ih (h.perform (Ne.symm hlive.1)) hlive.2

/-- **A whole history of deliveries**, with what still waits at its end, accounts for the items that
the subscriber was behind at first and those logged since. -/
theorem account (h : channel.Behind subscriber items)
    (hlive : .unsubscribe subscriber ∉ actions) :
    Account (channel.received subscriber actions ++ [((channel.run actions).receive subscriber).1])
      (items ++ logged actions) := by
  induction actions generalizing channel items with
  | nil =>
    rw [received, List.nil_append, Channel.run, List.foldl_nil, h.receive]
    exact Account.nil.cons_ofItems items
  | cons action rest ih =>
    rw [List.mem_cons, not_or] at hlive
    have hrest := ih (h.perform (Ne.symm hlive.1)) hlive.2
    cases action with
    | subscribe | unsubscribe other => exact hrest
    | log item =>
      rw [pending, List.append_assoc] at hrest
      exact hrest
    | drain other =>
      by_cases hother : other = subscriber
      · subst hother
        simp only [pending, if_true, List.nil_append] at hrest
        rw [received, handed, if_pos rfl, h.receive]
        exact hrest.cons_ofItems items
      · simp only [pending, if_neg hother] at hrest
        rw [received, handed, if_neg hother]
        exact hrest

/-- What a subscriber is handed, it is handed for what it notices. -/
theorem received_eq (h : channel.Behind subscriber items)
    (hlive : .unsubscribe subscriber ∉ actions) :
    channel.received subscriber actions = ofNotices items (notices subscriber actions) := by
  induction actions generalizing channel items with
  | nil => rfl
  | cons action rest ih =>
    rw [List.mem_cons, not_or] at hlive
    have hrest := ih (h.perform (Ne.symm hlive.1)) hlive.2
    cases action with
    | subscribe | unsubscribe other | log item => exact hrest
    | drain other =>
      by_cases hother : other = subscriber
      · subst hother
        simp only [pending, if_true] at hrest
        rw [received, hrest, handed, if_pos rfl, h.receive]
        simp [notices, ofNotices]
      · simp only [pending, if_neg hother] at hrest
        rw [received, hrest, handed, if_neg hother]
        simp [notices, hother]

end Behind

end Channel

/-! ## Every item is accounted for -/

open Delivery Channel

/-- **Nothing is lost without notice.** Take any history of a channel and a subscriber in it that has
not left: what was done `before` it joined, and what was done `after`. What it was handed since, and
then what still waits for it, account for the items logged since. A drain tells of a loss exactly if
more than 128 items were logged since the subscriber's last drain (or since it joined), and then of
so many as there are more. And nobody else has a part in it: in any other history in which a
subscriber notices the same, items and drains of its own, it is handed the same. -/
theorem every_item_accounted {before after : List (Action α)} {subscriber : Nat}
    {joined : Channel α} (hjoined : (Channel.empty.run before).subscribe = (subscriber, joined))
    (hlive : .unsubscribe subscriber ∉ after) :
    Account (joined.received subscriber after ++ [((joined.run after).receive subscriber).1])
      (logged after) ∧
    (let lost := ((joined.run after).receive subscriber).1.lost
      let behind := (sinceDrain subscriber after).length
      (0 < lost ↔ 128 < behind) ∧ (128 < behind → lost = behind - 128)) ∧
    ∀ (before' after' : List (Action α)) (subscriber' : Nat) (joined' : Channel α),
      (Channel.empty.run before').subscribe = (subscriber', joined') →
        .unsubscribe subscriber' ∉ after' →
        notices subscriber' after' = notices subscriber after →
        joined'.received subscriber' after' = joined.received subscriber after := by
  have hbehind := behind_of_subscribe hjoined
  refine ⟨hbehind.account hlive, ?_, ?_⟩
  · have hlost : ((joined.run after).receive subscriber).1.lost
        = (sinceDrain subscriber after).length - 128 := by
      rw [(hbehind.run hlive).receive, ofItems, capacity, sinceDrain]
    intro lost behind
    exact ⟨by omega, fun _ => hlost⟩
  · intro before' after' subscriber' joined' hjoined' hlive' hsame
    rw [(behind_of_subscribe hjoined').received_eq hlive', hsame, hbehind.received_eq hlive]

/-- A late subscriber at the two boundaries, 128 items and one more, while an earlier one drains and
leaves. -/
theorem every_item_accounted_late :
    let items : List (Action Nat) := (List.range 128).map .log
    let before : List (Action Nat) := [.log 7, .subscribe, .log 8]
    let after : List (Action Nat) :=
      items ++ [.drain 0, .unsubscribe 0, .drain 1] ++ items ++ [.subscribe, .log 9]
    ∃ joined, (Channel.empty.run before).subscribe = (1, joined) ∧ .unsubscribe 1 ∉ after ∧
      Account (joined.received 1 after ++ [((joined.run after).receive 1).1]) (logged after) ∧
      ((joined.run after).receive 1).1.lost = 1 := by
  intro items before after
  have hjoined : (Channel.empty.run before).subscribe = (1, (Channel.empty.run before).subscribe.2) :=
    rfl
  have hlive : .unsubscribe 1 ∉ after := by simp [after, items]
  obtain ⟨haccount, ⟨-, hlost⟩, -⟩ := every_item_accounted hjoined hlive
  have hbehind : (sinceDrain 1 after).length = 129 := by decide +kernel
  refine ⟨_, hjoined, hlive, haccount, ?_⟩
  rw [hlost (by omega), hbehind]

end Rowwise.Log
