import LiveMap.Proofs.Channel.Delivery
import LiveMap.Proofs.Channel.Publish

/-!
# Each subscriber as if it were alone

A seat is what a channel holds for one subscriber: whether it is live, its queue, and whether it has
found the end of it. Little of what happens to a channel concerns one subscriber: the publications,
its own receives, and what cuts it off or lets go of its queue. `Seat.after` and `Seat.found` say
what such a concern does to a seat, and what a receive finds there, without any channel around it.

One action of the channel does to every seat what its concern says, and nothing if it is no concern
of the subscriber (`Valid.seat_act`). By induction on the run, all that a subscriber lives through
is what a lone seat lives through under the same concerns (`Valid.history_eq_play`). So what the
other subscribers do is of no consequence to it.

Main statement: `eviction_is_exact_and_isolated`, for every run of every new channel.
-/

namespace LiveMap

/-- What concerns one subscriber of all that happens to a channel. -/
inductive Concern (α : Type) where
  /-- An item is published. -/
  | publish (item : α)
  /-- The subscriber asks for its next item. -/
  | receive
  /-- The subscriber is cut off by its id, or with the whole channel. -/
  | cutOff
  /-- The subscriber lets go of its queue. -/
  | leave

/-- What a channel holds for one subscriber. -/
structure Seat (α : Type) where
  /-- Whether publishing reaches the subscriber. -/
  live : Bool
  /-- The items in its queue, unless it has let go of it. -/
  queue : Option (List α)
  /-- Whether a receive has found the queue empty and cut off. -/
  ended : Bool

namespace Seat

variable {α : Type}

/-- The seat of a new subscriber. -/
def new : Seat α := ⟨true, some [], false⟩

/-- The seat after something that concerns it. A publication that finds the queue full cuts the
subscriber off. -/
def after (capacity : Nat) (s : Seat α) : Concern α → Seat α
  | .publish item =>
    if s.live ∧ (s.queue.getD []).length < capacity then
      { s with queue := s.queue.map (· ++ [item]) }
    else { s with live := false }
  | .receive =>
    match s.queue with
    | none => s
    | some [] => if s.live then s else { s with ended := true }
    | some (_ :: rest) => { s with queue := some rest }
  | .cutOff => { s with live := false }
  | .leave => ⟨false, none, false⟩

/-- What a receive finds. -/
def found (s : Seat α) : Concern α → Option (Receipt α)
  | .receive =>
    match s.queue with
    | none => some .ended
    | some [] => some (if s.live then .pending else .ended)
    | some (item :: _) => some (.item item)
  | .publish _ | .cutOff | .leave => none

/-- What a seat lives through: for each concern what a receive finds, and the seat after it. -/
def play (capacity : Nat) : Seat α → List (Concern α) → List (Option (Receipt α) × Seat α)
  | _, [] => []
  | s, x :: rest => (s.found x, s.after capacity x) :: play capacity (s.after capacity x) rest

end Seat

namespace Channel

variable {α : Type}

/-- What the channel holds for a subscriber. -/
def seat (c : Channel α) (id : SubscriberId) : Seat α :=
  ⟨c.isSubscribed id, (c.mailbox? id).map (·.queue.toList), c.hasEnded id⟩

/-- What an action means to a subscriber, if it concerns it. -/
def Action.concern? (id : SubscriberId) : Action α → Option (Concern α)
  | publish item => some (.publish item)
  | listen .subscribe => none
  | listen (.receive j) => if j = id then some .receive else none
  | listen (.unsubscribe j) => if j = id then some .cutOff else none
  | listen (.leave j) => if j = id then some .leave else none
  | close => some .cutOff

/-- What a subscriber finds in the course of an action: something if it is its own receive. -/
def finds (id : SubscriberId) (c : Channel α) : Action α → Option (Receipt α)
  | .listen (.receive j) => if j = id then some (c.receive id).1 else none
  | _ => none

/-- What a subscriber lives through in the course of some actions: for each of those that concern
it, what it finds, and what the channel holds for it afterwards. -/
def history (id : SubscriberId) :
    Channel α → List (Action α) → List (Option (Receipt α) × Seat α)
  | _, [] => []
  | c, a :: rest =>
    match a.concern? id with
    | none => history id (c.act a) rest
    | some _ => (finds id c a, (c.act a).seat id) :: history id (c.act a) rest

/-! ## One action -/

/-- What a channel holds for a subscriber whose mailbox exists. -/
theorem seat_of_mailbox {c : Channel α} {id : SubscriberId} {box : Mailbox α}
    (h : c.mailbox? id = some box) :
    c.seat id = ⟨c.isSubscribed id, some box.queue.toList, box.ended⟩ := by
  have hended : c.hasEnded id = box.ended := by
    unfold mailbox? at h
    rw [hasEnded, h]
  rw [seat, h, hended, Option.map_some]

/-- What a valid channel holds for a subscriber without a mailbox. -/
theorem Valid.seat_of_no_mailbox {c : Channel α} (hv : c.Valid) {id : SubscriberId}
    (h : c.mailbox? id = none) : c.seat id = ⟨false, none, false⟩ := by
  have hlive : c.isSubscribed id = false := by
    rw [← Bool.not_eq_true, isSubscribed_iff]
    exact fun hm => hv.held_of_live id hm h
  have hended : c.hasEnded id = false := by
    unfold mailbox? at h
    rw [hasEnded, h]
  rw [seat, h, hlive, hended, Option.map_none]

/-- Two channels with the same mailbox under an id, and the same standing of it, hold the same for
the subscriber. -/
theorem seat_congr {c d : Channel α} {id : SubscriberId} (hbox : d.mailbox? id = c.mailbox? id)
    (hlive : d.isSubscribed id = c.isSubscribed id) : d.seat id = c.seat id := by
  have hended : d.hasEnded id = c.hasEnded id := by
    unfold mailbox? at hbox
    rw [hasEnded, hasEnded, hbox]
  rw [seat, seat, hbox, hlive, hended]

/-- A new subscriber has a new seat. -/
theorem Valid.seat_subscribe {c : Channel α} (hv : c.Valid) :
    c.subscribe.2.seat c.nextId = .new := by
  have hbox := mailbox?_subscribe hv c.nextId
  rw [if_pos rfl] at hbox
  rw [seat_of_mailbox hbox, isSubscribed_subscribe]
  rfl

/-- Publishing does to each seat what it would do to the seat alone. -/
theorem Valid.seat_publish {c : Channel α} (hv : c.Valid) (item : α) (id : SubscriberId) :
    (c.publish item).2.seat id = (c.seat id).after c.capacity (.publish item) := by
  have hstays := hv.isSubscribed_publish item id
  have hbox := mailbox?_publish c item id
  cases hb : c.mailbox? id with
  | none =>
    rw [hb, Option.map_none] at hbox
    rw [(hv.publish item).seat_of_no_mailbox hbox, hv.seat_of_no_mailbox hb]
    rfl
  | some box =>
    rw [hb, Option.map_some] at hbox
    -- Whoever stays live has got the item, and whoever is cut off keeps its queue.
    rw [queued_of_mailbox hb] at hstays
    rw [seat_of_mailbox hbox, seat_of_mailbox hb, Seat.after, Option.getD_some]
    dsimp only
    by_cases hs : (c.publish item).2.isSubscribed id = true
    · rw [if_pos hs, if_pos (hstays.1 hs), hs, (hstays.1 hs).1, Queue.toList_push]
      rfl
    · rw [if_neg hs, if_neg fun h => hs (hstays.2 h), Bool.not_eq_true _ |>.mp hs]

/-- An own receive does to a seat what it would do to the seat alone, and finds the same. -/
theorem Valid.seat_receive {c : Channel α} (hv : c.Valid) (id : SubscriberId) :
    (c.receive id).2.seat id = (c.seat id).after c.capacity .receive ∧
      some (c.receive id).1 = (c.seat id).found .receive := by
  obtain ⟨hb, hr⟩ | ⟨box, item, queue, hb, hq, hr⟩ | ⟨box, hb, hq, hs, hr⟩ |
    ⟨box, hb, hq, hs, hr⟩ := receive_cases c id
  · rw [hr, hv.seat_of_no_mailbox hb]
    exact ⟨rfl, rfl⟩
  · rw [hr, seat_of_mailbox (mailbox?_setMailbox_self c id _), seat_of_mailbox hb, hq]
    exact ⟨rfl, rfl⟩
  · rw [hr, seat_of_mailbox hb, hq, hs]
    exact ⟨rfl, rfl⟩
  · have hs' : (c.setMailbox id { box with ended := true }).isSubscribed id = false := hs
    rw [hr, seat_of_mailbox (mailbox?_setMailbox_self c id _), seat_of_mailbox hb, hq, hs, hs']
    exact ⟨rfl, rfl⟩

/-- The law of one action: it does to the seat of a subscriber what its concern does to the seat
alone, and nothing if it does not concern the subscriber. -/
theorem Valid.seat_act {c : Channel α} (hv : c.Valid) {id : SubscriberId} (hid : id < c.nextId)
    (a : Action α) :
    (c.act a).seat id =
      match a.concern? id with
      | none => c.seat id
      | some x => (c.seat id).after c.capacity x := by
  cases a with
  | publish item => exact hv.seat_publish item id
  | close => rfl
  | listen l =>
    cases l with
    | subscribe =>
      have hne : id ≠ c.nextId := Nat.ne_of_lt hid
      refine seat_congr ?_ (isSubscribed_subscribe_of_ne c hne)
      rw [Channel.act, listen, mailbox?_subscribe hv, if_neg hne]
    | receive j =>
      rw [Action.concern?]
      by_cases hj : j = id
      · rw [if_pos hj, hj]
        exact (hv.seat_receive id).1
      · rw [if_neg hj]
        exact seat_congr (mailbox?_receive_of_ne c (Ne.symm hj)) (isSubscribed_receive c j id)
    | unsubscribe j =>
      have hlive := isSubscribed_unsubscribe c j id
      rw [Action.concern?]
      by_cases hj : j = id
      · rw [hj, bne_self_eq_false, Bool.and_false] at hlive
        rw [if_pos hj, hj, Channel.act, listen, seat, hlive]
        rfl
      · rw [bne_iff_ne.2 (Ne.symm hj), Bool.and_true] at hlive
        rw [if_neg hj]
        exact seat_congr (mailbox?_unsubscribe c j id) hlive
    | leave j =>
      rw [Action.concern?]
      by_cases hj : j = id
      · rw [if_pos hj, hj]
        exact (hv.leave id).seat_of_no_mailbox (mailbox?_leave_self hv id)
      · have hlive := isSubscribed_leave c j id
        rw [bne_iff_ne.2 (Ne.symm hj), Bool.and_true] at hlive
        rw [if_neg hj]
        exact seat_congr (mailbox?_leave_of_ne c (Ne.symm hj)) hlive

/-- What a subscriber finds is what the seat alone would find. -/
theorem Valid.finds_eq {c : Channel α} (hv : c.Valid) {id : SubscriberId} {a : Action α}
    {x : Concern α} (h : a.concern? id = some x) : finds id c a = (c.seat id).found x := by
  unfold Action.concern? at h
  split at h
  · cases h
    rfl
  · cases h
  · split at h
    · next hj =>
      cases h
      rw [finds, if_pos hj]
      exact (hv.seat_receive id).2
    · cases h
  · split at h
    · cases h
      rfl
    · cases h
  · split at h
    · cases h
      rfl
    · cases h
  · cases h
    rfl

/-! ## A run -/

/-- All that a subscriber lives through is what a lone seat lives through under the same
concerns. -/
theorem Valid.history_eq_play {c : Channel α} (hv : c.Valid) {id : SubscriberId}
    (hid : id < c.nextId) (actions : List (Action α)) :
    history id c actions =
      (c.seat id).play c.capacity (actions.filterMap (Action.concern? id)) := by
  -- By induction on the actions; the channel around the seat changes with each of them.
  induction actions generalizing c with
  | nil => rfl
  | cons a rest ih =>
    have hrest := ih (hv.act a) (Nat.lt_of_lt_of_le hid (nextId_le_act c a))
    have hseat := hv.seat_act hid a
    rw [capacity_act] at hrest
    rw [history]
    cases hx : a.concern? id with
    | none =>
      rw [hx] at hseat
      rw [List.filterMap_cons_none hx, hrest, hseat]
    | some x =>
      rw [hx] at hseat
      rw [List.filterMap_cons_some hx, Seat.play, hrest, hseat, hv.finds_eq hx]

/-- Without a concern a subscriber finds nothing. -/
theorem finds_of_no_concern (c : Channel α) {id : SubscriberId} {a : Action α}
    (h : a.concern? id = none) : finds id c a = none := by
  unfold finds
  split
  · next j =>
    have hj : j ≠ id := by
      rintro rfl
      rw [Action.concern?, if_pos rfl] at h
      cases h
    rw [if_neg hj]
  · rfl

/-- What a subscriber takes is the item that it finds. -/
theorem taken_eq_finds (id : SubscriberId) (c : Channel α) (a : Action α) :
    taken id c a = ((finds id c a).bind Receipt.item?).toList := by
  cases a with
  | publish item => rfl
  | close => rfl
  | listen l =>
    cases l with
    | receive j =>
      rw [taken, finds]
      split <;> rfl
    | subscribe => rfl
    | unsubscribe j => rfl
    | leave j => rfl

/-- What a subscriber receives is part of what it lives through. -/
theorem received_eq_history (id : SubscriberId) (c : Channel α) (actions : List (Action α)) :
    received id c actions =
      (history id c actions).flatMap fun moment => (moment.1.bind Receipt.item?).toList := by
  induction actions generalizing c with
  | nil => rfl
  | cons a rest ih =>
    rw [received, ih, history, taken_eq_finds]
    cases hx : a.concern? id with
    | none => rw [finds_of_no_concern c hx]; rfl
    | some x => rw [List.flatMap_cons]

/-! ## Two runs -/

/-- What a channel still holds for a subscriber in the end follows from its concerns alone. -/
theorem Valid.seat_run {c : Channel α} (hv : c.Valid) {id : SubscriberId} (hid : id < c.nextId)
    (actions : List (Action α)) :
    (c.run actions).seat id =
      (actions.filterMap (Action.concern? id)).foldl (Seat.after c.capacity) (c.seat id) := by
  induction actions generalizing c with
  | nil => rfl
  | cons a rest ih =>
    have hrest := ih (hv.act a) (Nat.lt_of_lt_of_le hid (nextId_le_act c a))
    have hseat := hv.seat_act hid a
    rw [capacity_act] at hrest
    rw [run_cons, hrest, hseat]
    cases hx : a.concern? id with
    | none => rw [List.filterMap_cons_none hx]
    | some x => rw [List.filterMap_cons_some hx, List.foldl_cons]

/-- Subscribers of two channels of one capacity, under the same concerns, live through the same, and
in the end the channels hold the same for them. -/
theorem Valid.history_eq_of_concerns {c d : Channel α} (hc : c.Valid) (hd : d.Valid)
    (hcapacity : c.capacity = d.capacity) {actions others : List (Action α)}
    (hagree : actions.filterMap (Action.concern? c.nextId) =
      others.filterMap (Action.concern? d.nextId)) :
    history c.nextId c.subscribe.2 actions = history d.nextId d.subscribe.2 others ∧
      received c.nextId c.subscribe.2 actions = received d.nextId d.subscribe.2 others ∧
      (c.subscribe.2.run actions).seat c.nextId = (d.subscribe.2.run others).seat d.nextId := by
  have hcap : c.subscribe.2.capacity = d.subscribe.2.capacity := hcapacity
  have hhistory : history c.nextId c.subscribe.2 actions =
      history d.nextId d.subscribe.2 others := by
    rw [hc.subscribe.history_eq_play (Nat.lt_succ_self _),
      hd.subscribe.history_eq_play (Nat.lt_succ_self _), hc.seat_subscribe, hd.seat_subscribe, hcap,
      hagree]
  refine ⟨hhistory, ?_, ?_⟩
  · rw [received_eq_history, received_eq_history, hhistory]
  · rw [hc.subscribe.seat_run (Nat.lt_succ_self _), hd.subscribe.seat_run (Nat.lt_succ_self _),
      hc.seat_subscribe, hd.seat_subscribe, hcap, hagree]

/-! ## Every publication of every run -/

/-- What the publications of a run do, and to whom. -/
structure ExactEviction (start : Channel α) (actions : List (Action α)) : Prop where
  /-- A publication cuts a live subscriber off exactly if its queue holds as many items as the
  channel allows. -/
  evicts_iff : ∀ item id, (start.run actions).isSubscribed id = true →
    (((start.run actions).publish item).2.isSubscribed id = false ↔
      ((start.run actions).queued id).length = start.capacity)
  /-- Such a subscriber keeps what it has, every other live subscriber gets the item, and nobody
  else becomes live. -/
  delivers : ∀ item id,
    ((start.run actions).isSubscribed id = true →
      ((start.run actions).publish item).2.queued id = (start.run actions).queued id ++
        if ((start.run actions).queued id).length = start.capacity then [] else [item]) ∧
    ((start.run actions).isSubscribed id = false →
      ((start.run actions).publish item).2.isSubscribed id = false)
  /-- A queue holds what was published since a moment at which nothing was queued and has not been
  received since. The moment of its subscription is such a moment. -/
  backlog : ∀ early late, actions = early ++ late → ∀ id,
    (start.run early).queued id = [] → (start.run early).isSubscribed id = true →
    (start.run actions).isSubscribed id = true →
    received id (start.run early) late ++ (start.run actions).queued id = published late ∧
      (((start.run actions).queued id).length = start.capacity ↔
        (published late).length = (received id (start.run early) late).length + start.capacity)
  /-- A new subscriber is live, and nothing is queued for it. -/
  joins : (start.run actions).subscribe.2.isSubscribed (start.run actions).subscribe.1 = true ∧
    (start.run actions).subscribe.2.queued (start.run actions).subscribe.1 = []
  /-- The report counts the live subscribers with room and those without; together these are all of
  them, and the former are those who stay live. -/
  reports : ∀ item,
    let c := start.run actions
    (c.publish item).1.delivered =
        c.live.countP (fun id => decide ((c.queued id).length < start.capacity)) ∧
      (c.publish item).1.evicted =
        c.live.countP (fun id => decide ((c.queued id).length = start.capacity)) ∧
      (c.publish item).1.delivered + (c.publish item).1.evicted = c.subscriberCount ∧
      (c.publish item).2.subscriberCount = (c.publish item).1.delivered
  /-- A pass through the live subscribers in any order has the same report and leaves the same
  channel. It finds nobody whose queue is gone. -/
  any_order : ∀ item order, order.Perm (start.run actions).live →
    (start.run actions).publishInOrder order item = (start.run actions).publish item ∧
      ∀ found ∈ (pass item (start.run actions) order).1, found.2 ≠ .closed
  /-- A subscriber of this run and one of another run, in which the same concerns them, live through
  the same: they receive the same items, and are cut off by the same publication. -/
  isolated : ∀ before after, actions = before ++ .listen .subscribe :: after →
    ∀ (name : String) (before' after' : List (Action α)),
      let c := start.run before
      let d := ({ start with name } : Channel α).run before'
      after.filterMap (Action.concern? c.subscribe.1) =
        after'.filterMap (Action.concern? d.subscribe.1) →
      history c.subscribe.1 c.subscribe.2 after = history d.subscribe.1 d.subscribe.2 after' ∧
        received c.subscribe.1 c.subscribe.2 after =
          received d.subscribe.1 d.subscribe.2 after' ∧
        (c.subscribe.2.run after).seat c.subscribe.1 = (d.subscribe.2.run after').seat d.subscribe.1

/-- In every run of every channel, a publication cuts off exactly the live subscribers whose queues
are full, its report says so, and what becomes of one subscriber does not depend on the others. -/
theorem eviction_is_exact_and_isolated (name : String) (requested : Nat)
    (actions : List (Action α)) :
    (create name requested : Channel α).capacity = clampCapacity requested ∧
      ExactEviction (create name requested) actions := by
  have hstart : (create name requested : Channel α).Valid := valid_create name requested
  have hv : ((create name requested : Channel α).run actions).Valid := hstart.run actions
  have hcap : ((create name requested : Channel α).run actions).capacity =
      (create name requested : Channel α).capacity := capacity_run _ actions
  refine ⟨rfl, ?_⟩
  constructor
  case evicts_iff =>
    intro item id hlive
    rw [hv.cut_iff_full item hlive, hcap]
  case delivers =>
    intro item id
    constructor
    · intro hlive
      rw [hv.queued_publish_of_live item hlive, hcap]
    · intro hcut
      rw [← Bool.not_eq_true] at hcut ⊢
      exact fun hs => hcut ((hv.isSubscribed_publish item id).1 hs).1
  case backlog =>
    intro early late hsplit id hempty hearly hlive
    have hearlier := hstart.run early
    have hid : id < ((create name requested : Channel α).run early).nextId :=
      hearlier.lt_of_live ((isSubscribed_iff _ id).1 hearly)
    rw [hsplit, run_append] at hlive ⊢
    have hlaw := received_append_queued_of_live hearlier hid hlive
    rw [hempty, List.nil_append] at hlaw
    have hlength := congrArg List.length hlaw
    rw [List.length_append] at hlength
    exact ⟨hlaw, by omega⟩
  case joins => exact ⟨isSubscribed_subscribe _, queued_subscribe_self hv⟩
  case reports =>
    intro item c
    have hreport := hv.report_publish item
    rw [hcap] at hreport
    exact hreport
  case any_order =>
    intro item order hp
    refine ⟨hv.publishInOrder_eq item hp, fun found hfound => ?_⟩
    rw [pass_eq item hv.ids_nodup (hp.nodup_iff.2 hv.live_nodup)] at hfound
    obtain ⟨id, hid, rfl⟩ := List.mem_map.1 hfound
    rcases hv.delivery_of_live (hp.mem_iff.1 hid) with ⟨hd, -⟩ | ⟨hd, -⟩
    · rw [hd]
      exact Delivery.noConfusion
    · rw [hd]
      exact Delivery.noConfusion
  case isolated =>
    intro before after _ name' before' after' c d hagree
    have hc : c.Valid := hstart.run before
    have hd : d.Valid := (valid_create name' requested).run before'
    have hcd : c.capacity = d.capacity := by rw [capacity_run, capacity_run]
    exact hc.history_eq_of_concerns hd hcd hagree

/-- Of two subscribers with room for one item each, the one that has taken its item stays. -/
example :
    (((create "letters" 1).run [.listen .subscribe, .listen .subscribe, .publish 'a',
      .listen (.receive 2)]).publish 'b').1 = ⟨1, 1⟩ := by decide

end Channel

end LiveMap
