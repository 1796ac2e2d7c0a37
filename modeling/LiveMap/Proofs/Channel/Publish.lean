import LiveMap.Proofs.Channel.Valid

/-!
# One publication, subscriber by subscriber

A publisher goes through the live subscribers one after the other. It offers the item to each of
them, and removes after the pass those that did not accept it. The subscribers are kept in no
particular order, so `publishInOrder` takes the order as an argument. What a pass does is said in
closed form by `pass_eq`: the subscribers have queues of their own, so an offer to one of them finds
what it would have found at first. Hence every order leads to the same report and the same channel,
which are those of `publish` (`Valid.publishInOrder_eq`).

The report counts the live subscribers with room and those without (`Valid.report_publish`), and
nobody who is live is found without a queue (`Valid.delivery_of_live`). Those without room are cut
off, and they alone (`Valid.cut_iff_full`). What the subscribers find in their queues afterwards is
the item, behind what they had, wherever there is room for it (`Valid.offered_publish`).
-/

namespace LiveMap

/-- Where the keys are distinct, writing under a present key rewrites its entry in place. -/
theorem Keyed.put_eq_map {κ α : Type} [DecidableEq κ] {k : κ} {a : α} {table : List (κ × α)}
    (hd : (table.map Prod.fst).Nodup) (h : find? k table = some a) (f : α → α) :
    put k (f a) table = table.map fun e => (e.1, if e.1 = k then f e.2 else e.2) := by
  induction table with
  | nil => cases h
  | cons e rest ih =>
    rw [List.map_cons, List.nodup_cons] at hd
    by_cases hk : e.1 = k
    · -- The entry of the key comes first, so the others have other keys and stay.
      rw [find?, if_pos hk] at h
      cases h
      have hothers : ∀ e' ∈ rest, (e'.1, if e'.1 = k then f e'.2 else e'.2) = e' := by
        intro e' he'
        have hne : e'.1 ≠ k := fun he => hd.1 (List.mem_map.2 ⟨e', he', he.trans hk.symm⟩)
        rw [if_neg hne]
      rw [put, if_pos hk, List.map_cons, if_pos hk, hk, List.map_congr_left hothers, List.map_id']
    · rw [find?, if_neg hk] at h
      rw [put, if_neg hk, List.map_cons, if_neg hk, ih hd.2 h]

namespace Channel

variable {α : Type}

/-- Offers an item to one subscriber, and says what became of it. -/
def offer (item : α) (c : Channel α) (id : SubscriberId) : Delivery × Channel α :=
  match c.mailbox? id with
  | none => (.closed, c)
  | some box =>
    if box.queue.size < c.capacity then
      (.accepted, c.setMailbox id { box with queue := box.queue.push item })
    else (.full, c)

/-- Offers an item to some subscribers in turn, and says what became of it with each of them. -/
def pass (item : α) : Channel α → List SubscriberId → List (SubscriberId × Delivery) × Channel α
  | c, [] => ([], c)
  | c, id :: rest =>
    let (found, c) := c.offer item id
    let (others, c) := pass item c rest
    ((id, found) :: others, c)

/-- Publishes an item by a pass through the subscribers in the given order. Those that did not
accept it are removed after the pass. -/
def publishInOrder (c : Channel α) (order : List SubscriberId) (item : α) :
    PublishReport × Channel α :=
  let (found, c) := pass item c order
  let dead := (found.filter (·.2 != .accepted)).map Prod.fst
  (⟨(found.filter (·.2 == .accepted)).length, dead.length⟩,
    { c with live := c.live.filter (!dead.contains ·) })

/-- The channel in which some subscribers have got an item. -/
def serve (c : Channel α) (item : α) (served : List SubscriberId) : Channel α :=
  { c with mailboxes := c.mailboxes.map fun e =>
      (e.1, if served.contains e.1 then { e.2 with queue := e.2.queue.push item } else e.2) }

/-! ## What an offer finds -/

/-- An offer to a subscriber without a queue finds that, and changes nothing. -/
theorem delivery_of_no_mailbox {c : Channel α} {id : SubscriberId} (h : c.mailbox? id = none) :
    c.delivery id = .closed := by
  unfold mailbox? at h
  rw [delivery, h]

/-- An offer to a subscriber with a queue finds whether there is room in it. -/
theorem delivery_of_mailbox {c : Channel α} {id : SubscriberId} {box : Mailbox α}
    (h : c.mailbox? id = some box) :
    c.delivery id = if box.queue.size < c.capacity then .accepted else .full := by
  unfold mailbox? at h
  rw [delivery, h]

/-- All that an offer can do: the item is accepted and goes to the end of the queue, or the offer
finds that it is not, and changes nothing. -/
theorem offer_cases (item : α) (c : Channel α) (id : SubscriberId) :
    (∃ box, c.mailbox? id = some box ∧ c.delivery id = .accepted ∧
      c.offer item id =
        (.accepted, c.setMailbox id { box with queue := box.queue.push item })) ∨
    (c.delivery id ≠ .accepted ∧ c.offer item id = (c.delivery id, c)) := by
  cases hb : c.mailbox? id with
  | none =>
    have hd := delivery_of_no_mailbox hb
    refine Or.inr ⟨by rw [hd]; exact Delivery.noConfusion, ?_⟩
    rw [offer, hb, hd]
  | some box =>
    have hd := delivery_of_mailbox hb
    by_cases hroom : box.queue.size < c.capacity
    · rw [if_pos hroom] at hd
      refine Or.inl ⟨box, rfl, hd, ?_⟩
      simp only [offer, hb, if_pos hroom]
    · rw [if_neg hroom] at hd
      refine Or.inr ⟨by rw [hd]; exact Delivery.noConfusion, ?_⟩
      simp only [offer, hb, if_neg hroom, hd]

/-- A mailbox that is written under one id does not count for the others. -/
theorem delivery_setMailbox_of_ne (c : Channel α) {id j : SubscriberId} (box : Mailbox α)
    (h : j ≠ id) : (c.setMailbox id box).delivery j = c.delivery j := by
  have hfind := mailbox?_setMailbox_of_ne c box h
  unfold mailbox? at hfind
  rw [delivery, delivery, hfind]
  rfl

/-- A live subscriber of a valid channel has room in its queue, or its queue is full. -/
theorem Valid.delivery_of_live {c : Channel α} (hv : c.Valid) {id : SubscriberId}
    (h : id ∈ c.live) :
    (c.delivery id = .accepted ∧ (c.queued id).length < c.capacity) ∨
    (c.delivery id = .full ∧ (c.queued id).length = c.capacity) := by
  obtain ⟨box, hb⟩ := Option.ne_none_iff_exists'.1 (hv.held_of_live id h)
  have hd := delivery_of_mailbox hb
  have hsize : (c.queued id).length = box.queue.size := by
    rw [queued_of_mailbox hb, Queue.size_eq_length]
  have hle := hv.size_le id box hb
  by_cases hroom : box.queue.size < c.capacity
  · rw [if_pos hroom] at hd
    exact Or.inl ⟨hd, by omega⟩
  · rw [if_neg hroom] at hd
    exact Or.inr ⟨hd, by omega⟩

/-! ## What a pass does -/

/-- Serving nobody changes nothing. -/
theorem serve_nil (c : Channel α) (item : α) : c.serve item [] = c := by
  have hsame : c.mailboxes.map (fun e => (e.1,
      if ([] : List SubscriberId).contains e.1
        then { e.2 with queue := e.2.queue.push item } else e.2)) = c.mailboxes := List.map_id' _
  rw [serve, hsame]

/-- Serving cuts nobody off. -/
theorem live_serve (c : Channel α) (item : α) (served : List SubscriberId) :
    (c.serve item served).live = c.live := rfl

/-- Serving one subscriber and then others, none of them twice, serves them all. -/
theorem serve_setMailbox {c : Channel α} (item : α) (hd : (c.mailboxes.map Prod.fst).Nodup)
    {id : SubscriberId} {box : Mailbox α} (hb : c.mailbox? id = some box)
    {served : List SubscriberId} (hfresh : id ∉ served) :
    (c.setMailbox id { box with queue := box.queue.push item }).serve item served =
      c.serve item (id :: served) := by
  have hput := Keyed.put_eq_map hd hb fun b : Mailbox α => { b with queue := b.queue.push item }
  have hboxes : (c.mailboxes.map fun e =>
        (e.1, if e.1 = id then { e.2 with queue := e.2.queue.push item } else e.2)).map (fun e =>
        (e.1, if served.contains e.1 then { e.2 with queue := e.2.queue.push item } else e.2)) =
      c.mailboxes.map fun e => (e.1,
        if (id :: served).contains e.1 then { e.2 with queue := e.2.queue.push item }
        else e.2) := by
    rw [List.map_map]
    refine List.map_congr_left fun e _ => ?_
    -- Whoever is served first is not served again.
    by_cases he : e.1 = id
    · simp [he, hfresh]
    · simp [he]
  unfold setMailbox serve
  rw [hput]
  dsimp only
  rw [hboxes]

/-- A pass finds with everyone what an offer would have found at first, and serves those that
accept. -/
theorem pass_eq (item : α) {c : Channel α} (hd : (c.mailboxes.map Prod.fst).Nodup)
    {order : List SubscriberId} (hn : order.Nodup) :
    pass item c order = (order.map fun id => (id, c.delivery id),
      c.serve item (order.filter (c.delivery · == .accepted))) := by
  induction order generalizing c with
  | nil => rw [pass, List.map_nil, List.filter_nil, serve_nil]
  | cons id rest ih =>
    obtain ⟨hfresh, hrest⟩ := List.nodup_cons.1 hn
    obtain ⟨box, hb, hdel, hoffer⟩ | ⟨hdel, hoffer⟩ := offer_cases item c id
    · -- The first one accepts the item. What the others have room for is not changed by that.
      have hdelivery : ∀ j ∈ rest,
          (c.setMailbox id { box with queue := box.queue.push item }).delivery j =
            c.delivery j := by
        intro j hj
        have hne : j ≠ id := by
          rintro rfl
          exact hfresh hj
        exact delivery_setMailbox_of_ne c _ hne
      have hd' : ((c.setMailbox id { box with queue := box.queue.push item }).mailboxes.map
          Prod.fst).Nodup := Keyed.nodup_keys_put hd
      have hserved : id ∉ rest.filter (c.delivery · == .accepted) := fun hm =>
        hfresh (List.mem_filter.1 hm).1
      have hmap : (rest.map fun j =>
          (j, (c.setMailbox id { box with queue := box.queue.push item }).delivery j)) =
          rest.map fun j => (j, c.delivery j) :=
        List.map_congr_left fun j hj => by rw [hdelivery j hj]
      have hfilter : rest.filter
          ((c.setMailbox id { box with queue := box.queue.push item }).delivery · == .accepted) =
          rest.filter (c.delivery · == .accepted) :=
        List.filter_congr fun j hj => by rw [hdelivery j hj]
      have hhead : (c.delivery id == .accepted) = true := beq_iff_eq.2 hdel
      rw [pass, hoffer]
      show ((id, Delivery.accepted) :: (pass item _ rest).1, (pass item _ rest).2) = _
      rw [ih hd' hrest, hmap, hfilter, serve_setMailbox item hd hb hserved, List.map_cons,
        List.filter_cons, if_pos hhead, hdel]
    · -- The first one does not accept the item, and the pass goes on with the same channel.
      have hhead : (c.delivery id == .accepted) ≠ true := fun h => hdel (beq_iff_eq.1 h)
      rw [pass, hoffer]
      show ((id, c.delivery id) :: (pass item c rest).1, (pass item c rest).2) = _
      rw [ih hd hrest, List.map_cons, List.filter_cons, if_neg hhead]

/-! ## Publishing -/

/-- The channel that publishing leaves, and its report, in terms of those who accept. -/
theorem publish_eq (c : Channel α) (item : α) :
    c.publish item =
      (⟨(c.live.filter (c.delivery · == .accepted)).length,
        (c.live.filter (c.delivery · != .accepted)).length⟩,
        { c.serve item (c.live.filter (c.delivery · == .accepted)) with
          live := c.live.filter (c.delivery · == .accepted) }) := by
  unfold publish
  rw [List.partition_eq_filter_filter]
  rfl

/-- In whatever order a publisher goes through the live subscribers, the report and the channel are
the same. -/
theorem Valid.publishInOrder_eq {c : Channel α} (hv : c.Valid) (item : α)
    {order : List SubscriberId} (hp : order.Perm c.live) :
    c.publishInOrder order item = c.publish item := by
  have hn : order.Nodup := hp.nodup_iff.2 hv.live_nodup
  -- Those who accept and those who do not, in this order.
  have haccepted : (order.map fun id => (id, c.delivery id)).filter (·.2 == .accepted) =
      (order.filter (c.delivery · == .accepted)).map fun id => (id, c.delivery id) :=
    List.filter_map
  have hdead : ((order.map fun id => (id, c.delivery id)).filter (·.2 != .accepted)).map
      Prod.fst = order.filter (c.delivery · != .accepted) := by
    rw [List.filter_map, List.map_map]
    exact List.map_id' _
  have hcount : (order.filter (c.delivery · == .accepted)).length =
      (c.live.filter (c.delivery · == .accepted)).length := (hp.filter _).length_eq
  have hcount' : (order.filter (c.delivery · != .accepted)).length =
      (c.live.filter (c.delivery · != .accepted)).length := (hp.filter _).length_eq
  have hserve : c.serve item (order.filter (c.delivery · == .accepted)) =
      c.serve item (c.live.filter (c.delivery · == .accepted)) := by
    have hcontains : ∀ id, (order.filter (c.delivery · == .accepted)).contains id =
        (c.live.filter (c.delivery · == .accepted)).contains id := by
      intro id
      rw [Bool.eq_iff_iff, List.contains_iff_mem, List.contains_iff_mem]
      exact (hp.filter _).mem_iff
    unfold serve
    simp only [hcontains]
  -- Whoever is live and not removed accepts.
  have hlive : c.live.filter (!(order.filter (c.delivery · != .accepted)).contains ·) =
      c.live.filter (c.delivery · == .accepted) := by
    refine List.filter_congr fun id hid => ?_
    have hmem : id ∈ order := hp.mem_iff.2 hid
    rw [Bool.eq_iff_iff, Bool.not_eq_true', ← Bool.not_eq_true, List.contains_iff_mem,
      List.mem_filter]
    simp [hmem]
  rw [publish_eq, publishInOrder, pass_eq item hv.ids_nodup hn]
  dsimp only
  rw [haccepted, hdead, List.length_map, hcount, hcount', hserve, live_serve, hlive]

/-- The report counts the live subscribers with room and those without. Together these are all of
them, and the former are those who stay live. -/
theorem Valid.report_publish {c : Channel α} (hv : c.Valid) (item : α) :
    (c.publish item).1.delivered =
        c.live.countP (fun id => decide ((c.queued id).length < c.capacity)) ∧
      (c.publish item).1.evicted =
        c.live.countP (fun id => decide ((c.queued id).length = c.capacity)) ∧
      (c.publish item).1.delivered + (c.publish item).1.evicted = c.subscriberCount ∧
      (c.publish item).2.subscriberCount = (c.publish item).1.delivered := by
  have hroom : ∀ id ∈ c.live, (c.delivery id == .accepted) = true ↔
      decide ((c.queued id).length < c.capacity) = true := by
    intro id hid
    rcases hv.delivery_of_live hid with ⟨hd, hlt⟩ | ⟨hd, heq⟩
    · simp [hd, hlt]
    · simp [hd, heq]
  have hfull : ∀ id ∈ c.live, (c.delivery id != .accepted) = true ↔
      decide ((c.queued id).length = c.capacity) = true := by
    intro id hid
    rcases hv.delivery_of_live hid with ⟨hd, hlt⟩ | ⟨hd, heq⟩
    · simp [hd, Nat.ne_of_lt hlt]
    · simp [hd, heq]
  have hdelivered : (c.publish item).1.delivered = c.live.countP (c.delivery · == .accepted) := by
    rw [publish_eq, List.countP_eq_length_filter]
  have hevicted : (c.publish item).1.evicted = c.live.countP (c.delivery · != .accepted) := by
    rw [publish_eq, List.countP_eq_length_filter]
  refine ⟨?_, ?_, ?_, ?_⟩
  · rw [hdelivered, List.countP_congr hroom]
  · rw [hevicted, List.countP_congr hfull]
  · have hnot : ∀ id ∈ c.live, (c.delivery id != .accepted) = true ↔
        decide (¬(c.delivery id == .accepted) = true) = true := by
      intro id _
      simp
    rw [hdelivered, hevicted, subscriberCount, List.countP_congr hnot]
    exact (List.length_eq_countP_add_countP _).symm
  · rw [publish_eq]
    rfl

/-- A publication cuts a live subscriber off exactly if its queue is full. -/
theorem Valid.cut_iff_full {c : Channel α} (hv : c.Valid) (item : α) {id : SubscriberId}
    (hlive : c.isSubscribed id = true) :
    (c.publish item).2.isSubscribed id = false ↔ (c.queued id).length = c.capacity := by
  have hstays := hv.isSubscribed_publish item id
  have hle := hv.length_queued_le id
  -- Live and without room means full, because no queue exceeds the capacity.
  rw [← Bool.not_eq_true, hstays, not_and]
  constructor
  · intro hfull
    have hge := hfull hlive
    omega
  · intro hfull _
    omega

/-- A live subscriber whose queue is full keeps what it has, and any other gets the item. -/
theorem Valid.queued_publish_of_live {c : Channel α} (hv : c.Valid) (item : α) {id : SubscriberId}
    (hlive : c.isSubscribed id = true) :
    (c.publish item).2.queued id =
      c.queued id ++ if (c.queued id).length = c.capacity then [] else [item] := by
  have hcut := hv.cut_iff_full item hlive
  have hheld := hv.held_of_live id ((isSubscribed_iff c id).1 hlive)
  rw [queued_publish c item id hheld]
  by_cases hfull : (c.queued id).length = c.capacity
  · have hgone : ¬(c.publish item).2.isSubscribed id = true := by
      rw [hcut.2 hfull]
      exact Bool.false_ne_true
    rw [if_neg hgone, if_pos hfull, List.append_nil]
  · have hstays : (c.publish item).2.isSubscribed id = true := by
      rw [← Bool.not_eq_false]
      exact fun hgone => hfull (hcut.1 hgone)
    rw [if_pos hstays, if_neg hfull]

/-- What becomes of the queues of a channel on which one item is published, and nothing else
happens. -/
structure Offered (before : Channel α) (item : α) (after : Channel α) : Prop where
  /-- Whoever is live has the item queued last, unless its queue is full. -/
  live : ∀ id, before.isSubscribed id = true →
    after.queued id =
      before.queued id ++ if (before.queued id).length = before.capacity then [] else [item]
  /-- Whoever is not keeps what it has. -/
  others : ∀ id, before.isSubscribed id = false → after.queued id = before.queued id

/-- Publishing an item offers it to those who are live. -/
theorem Valid.offered_publish {c : Channel α} (hv : c.Valid) (item : α) :
    c.Offered item (c.publish item).2 where
  live _ hlive := hv.queued_publish_of_live item hlive
  others id hcut := by
    have hcut' : ¬(c.publish item).2.isSubscribed id = true := by
      rw [hv.isSubscribed_publish, hcut]
      exact fun h => Bool.false_ne_true h.1
    cases hbox : c.mailbox? id with
    | none =>
      have hnone : (c.publish item).2.mailbox? id = none := by
        rw [mailbox?_publish, hbox, Option.map_none]
      rw [queued_of_no_mailbox hbox, queued_of_no_mailbox hnone]
    | some box =>
      rw [queued_publish c item id (Option.ne_none_iff_exists'.2 ⟨box, hbox⟩), if_neg hcut']

end Channel

end LiveMap
