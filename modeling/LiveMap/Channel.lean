import LiveMap.Keyed
import LiveMap.Queue

/-!
# Bounded broadcast channels

A channel delivers every published item to each subscriber through a queue of its own. The queues
are bounded by the channel's capacity: a subscriber whose queue is full when an item is published is
cut off for good instead of missing the item. What was queued before that can still be received, so
a subscriber sees a contiguous run of the published items, in order and each once.

Two tables describe a channel. `live` holds the subscribers that publishing reaches, and `mailboxes`
the queues whose holders still exist. A cut-off subscriber is in the second and not in the first.
-/

namespace LiveMap

/-- Numbers the subscribers of one channel, from one on. -/
abbrev SubscriberId := Nat

/-- What one publication did. -/
structure PublishReport where
  /-- The number of subscribers that got the item. -/
  delivered : Nat
  /-- The number of subscribers that were cut off. -/
  evicted : Nat
  deriving DecidableEq, Repr

/-- The report of a publication that reached nobody. -/
def PublishReport.none : PublishReport := ⟨0, 0⟩

/-- Both reports taken together. -/
def PublishReport.add (r s : PublishReport) : PublishReport :=
  ⟨r.delivered + s.delivered, r.evicted + s.evicted⟩

instance : Add PublishReport := ⟨PublishReport.add⟩

/-- One subscriber's queue. -/
structure Mailbox (α : Type) where
  /-- The items published to the subscriber and not yet received. -/
  queue : Queue α
  /-- Whether a receive has found the queue empty and cut off. -/
  ended : Bool

/-- What a receive finds. -/
inductive Receipt (α : Type) where
  /-- The next item. -/
  | item (a : α)
  /-- Nothing yet, but items may follow. -/
  | pending
  /-- Nothing, and nothing will follow. -/
  | ended

/-- The item of a receipt. -/
def Receipt.item? {α : Type} : Receipt α → Option α
  | item a => some a
  | pending | ended => none

/-- What becomes of an item that is offered to one subscriber. -/
inductive Delivery where
  /-- The subscriber's queue has room. -/
  | accepted
  /-- The subscriber's queue is full. -/
  | full
  /-- Nobody holds the subscriber's queue any more. -/
  | closed
  deriving DecidableEq, Repr

/-- A broadcast channel. -/
structure Channel (α : Type) where
  /-- What the channel is called. -/
  name : String
  /-- The greatest number of items that a queue holds. -/
  capacity : Nat
  /-- The number that the next subscriber gets. -/
  nextId : SubscriberId
  /-- The subscribers that publishing reaches. -/
  live : List SubscriberId
  /-- The queues whose holders still exist. -/
  mailboxes : List (SubscriberId × Mailbox α)

namespace Channel

variable {α : Type}

/-- The greatest capacity. -/
def maxCapacity : Nat := 65536

/-- The capacity closest to the requested one: at least one, at most the greatest. -/
def clampCapacity (requested : Nat) : Nat := max 1 (min requested maxCapacity)

/-- A channel without subscribers. -/
def create (name : String) (requested : Nat) : Channel α where
  name
  capacity := clampCapacity requested
  nextId := 1
  live := []
  mailboxes := []

/-- Adds a subscriber with an empty queue. -/
def subscribe (c : Channel α) : SubscriberId × Channel α :=
  (c.nextId, { c with
    nextId := c.nextId + 1
    live := c.live ++ [c.nextId]
    mailboxes := c.mailboxes ++ [(c.nextId, ⟨.empty, false⟩)] })

/-- The number of subscribers that publishing reaches. -/
def subscriberCount (c : Channel α) : Nat := c.live.length

/-- Whether publishing reaches the subscriber. -/
def isSubscribed (c : Channel α) (id : SubscriberId) : Bool := c.live.contains id

/-- Cuts a subscriber off; its queue stays. Says whether publishing reached it before. -/
def unsubscribe (c : Channel α) (id : SubscriberId) : Bool × Channel α :=
  (c.isSubscribed id, { c with live := c.live.filter (· != id) })

/-- The holder of a queue lets go of it. The subscriber is cut off and its queue is gone. -/
def leave (c : Channel α) (id : SubscriberId) : Channel α :=
  { c with
    live := c.live.filter (· != id)
    mailboxes := Keyed.erase id c.mailboxes }

/-- Cuts every subscriber off. -/
def close (c : Channel α) : Channel α := { c with live := [] }

/-- What would become of an item offered to this subscriber. -/
def delivery (c : Channel α) (id : SubscriberId) : Delivery :=
  match Keyed.find? id c.mailboxes with
  | none => .closed
  | some box => if box.queue.size < c.capacity then .accepted else .full

/-- Offers an item to every subscriber. Those that do not accept it are cut off. -/
def publish (c : Channel α) (item : α) : PublishReport × Channel α :=
  let (served, refused) := c.live.partition (c.delivery · == .accepted)
  let serve : SubscriberId × Mailbox α → SubscriberId × Mailbox α := fun (id, box) =>
    (id, if served.contains id then { box with queue := box.queue.push item } else box)
  (⟨served.length, refused.length⟩,
    { c with live := served, mailboxes := c.mailboxes.map serve })

/-- Takes the next item of a subscriber's queue. A receive that finds the queue empty and cut off
remembers it. -/
def receive (c : Channel α) (id : SubscriberId) : Receipt α × Channel α :=
  match Keyed.find? id c.mailboxes with
  | none => (.ended, c)
  | some box =>
    match box.queue.pop? with
    | some (a, queue) =>
      (.item a, { c with mailboxes := Keyed.put id { box with queue } c.mailboxes })
    | none =>
      if c.isSubscribed id then (.pending, c)
      else (.ended, { c with mailboxes := Keyed.put id { box with ended := true } c.mailboxes })

/-- The next item of a subscriber's queue, if there is one. -/
def tryNext (c : Channel α) (id : SubscriberId) : Option α × Channel α :=
  let (receipt, c) := c.receive id
  (receipt.item?, c)

/-- Whether a receive has found this subscriber's queue empty and cut off. -/
def hasEnded (c : Channel α) (id : SubscriberId) : Bool :=
  match Keyed.find? id c.mailboxes with
  | none => false
  | some box => box.ended

/-- The items that a subscriber has yet to receive, the next one first. -/
def queued (c : Channel α) (id : SubscriberId) : List α :=
  match Keyed.find? id c.mailboxes with
  | none => []
  | some box => box.queue.toList

/-- Publishes several items in turn and adds up the reports. -/
def publishAll (c : Channel α) (items : List α) : PublishReport × Channel α :=
  items.foldl (fun (total, c) item =>
    let (report, c) := c.publish item
    (total + report, c)) (.none, c)

/-- Receives until nothing is left, at most `limit` times. `taken` holds the items received so far,
the newest first. -/
def drainUpTo : (limit : Nat) → (taken : List α) → Channel α → SubscriberId → List α × Channel α
  | 0, taken, c, _ => (taken.reverse, c)
  | limit + 1, taken, c, id =>
    match c.tryNext id with
    | (some a, c) => drainUpTo limit (a :: taken) c id
    | (none, c) => (taken.reverse, c)

/-- Receives until nothing is left. A queue holds at most `capacity` items. -/
def drain (c : Channel α) (id : SubscriberId) : List α × Channel α :=
  drainUpTo (c.capacity + 1) [] c id

/-- A one-line description of the channel. -/
def describe (c : Channel α) : String :=
  "FanOut \x7b name: \"" ++ c.name ++ "\", capacity: " ++ toString c.capacity ++
    ", subscribers: " ++ toString c.subscriberCount ++ " \x7d"

/-- A one-line description of a subscriber. -/
def describeSubscriber (c : Channel α) (id : SubscriberId) : String :=
  "Subscription \x7b id: " ++ toString id ++ ", evicted: " ++ toString (c.hasEnded id) ++ " \x7d"

end Channel

end LiveMap
