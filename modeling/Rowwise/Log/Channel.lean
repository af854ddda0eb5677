/-!
# Log channels

A channel passes what is sent to everybody who subscribed before. It keeps the latest items only:
a subscriber that falls further behind loses the older ones, and is told how many.
-/

namespace Rowwise.Log

/-- How many items a channel keeps. -/
def capacity : Nat := 128

/-- A channel: how many items were sent, the ones that are kept, newest first, and how many of the
items sent each subscriber has accounted for. Subscribers that left have no count. -/
structure Channel (α : Type) where
  sent : Nat
  kept : List α
  seen : List (Option Nat)

/-- What a subscriber receives: the number of items that it lost, and the items after them. -/
structure Delivery (α : Type) where
  lost : Nat
  items : List α
  deriving DecidableEq

namespace Channel

variable {α : Type}

/-- A channel without items and subscribers. -/
def empty : Channel α := ⟨0, [], []⟩

/-- Sends an item. -/
def send (channel : Channel α) (item : α) : Channel α :=
  { channel with sent := channel.sent + 1, kept := (item :: channel.kept).take capacity }

/-- Sends some items in their order. -/
def sendAll (channel : Channel α) (items : List α) : Channel α :=
  items.foldl send channel

/-- Adds a subscriber, which gets the items sent from now on. Subscribers are numbered. -/
def subscribe (channel : Channel α) : Nat × Channel α :=
  (channel.seen.length, { channel with seen := channel.seen ++ [some channel.sent] })

/-- Removes a subscriber. -/
def unsubscribe (channel : Channel α) (subscriber : Nat) : Channel α :=
  { channel with seen := channel.seen.set subscriber none }

/-- What waits for a subscriber who has accounted for the first `seen` items. -/
def waiting (channel : Channel α) (seen : Nat) : Delivery α :=
  let behind := channel.sent - seen
  ⟨behind - capacity, (channel.kept.take behind).reverse⟩

/-- Hands a subscriber all that waits for it. -/
def receive (channel : Channel α) (subscriber : Nat) : Delivery α × Channel α :=
  match channel.seen[subscriber]? with
  | some (some seen) =>
    (channel.waiting seen,
      { channel with seen := channel.seen.set subscriber (some channel.sent) })
  | _ => (⟨0, []⟩, channel)

end Channel

end Rowwise.Log
