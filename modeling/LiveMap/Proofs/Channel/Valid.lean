import LiveMap.Channel
import Mathlib.Data.List.Nodup

/-!
# What every operation does to a channel

Each operation of `Channel.lean` is described once, by what it does to the set of live subscribers
and to the mailbox under an id. `Valid` collects what holds of every channel in use: its capacity is
positive, ids are given out once, whoever is live has a mailbox, no queue is longer than the
capacity, and a queue that was found at its end is empty and cut off. A new channel is valid, and
each operation keeps it so.
-/

namespace LiveMap.Channel

variable {α : Type}

/-- The mailbox of a subscriber, as long as somebody holds it. -/
def mailbox? (c : Channel α) (id : SubscriberId) : Option (Mailbox α) :=
  Keyed.find? id c.mailboxes

/-- The channel with another mailbox under an id. -/
def setMailbox (c : Channel α) (id : SubscriberId) (box : Mailbox α) : Channel α :=
  { c with mailboxes := Keyed.put id box c.mailboxes }

/-- What holds of every channel in use. -/
structure Valid (c : Channel α) : Prop where
  /-- A queue can hold something. -/
  capacity_pos : 0 < c.capacity
  /-- An id has one mailbox at most. -/
  ids_nodup : (c.mailboxes.map Prod.fst).Nodup
  /-- A subscriber is live once at most. -/
  live_nodup : c.live.Nodup
  /-- Ids are given out in order, so a mailbox belongs to an id that was given out. -/
  lt_nextId : ∀ id, c.mailbox? id ≠ none → id < c.nextId
  /-- A live subscriber has a mailbox. -/
  held_of_live : ∀ id ∈ c.live, c.mailbox? id ≠ none
  /-- No queue is longer than the capacity. -/
  size_le : ∀ id box, c.mailbox? id = some box → box.queue.size ≤ c.capacity
  /-- A queue that was found at its end is empty and cut off. -/
  ended : ∀ id box, c.mailbox? id = some box → box.ended = true →
    id ∉ c.live ∧ box.queue.toList = []

/-! ## Views of a channel -/

/-- Publishing reaches exactly the live subscribers. -/
theorem isSubscribed_iff (c : Channel α) (id : SubscriberId) :
    c.isSubscribed id = true ↔ id ∈ c.live := by
  rw [isSubscribed, List.contains_iff_mem]

/-- What is queued for a subscriber whose mailbox exists. -/
theorem queued_of_mailbox {c : Channel α} {id : SubscriberId} {box : Mailbox α}
    (h : c.mailbox? id = some box) : c.queued id = box.queue.toList := by
  rw [mailbox?] at h
  rw [queued, h]

/-- Nothing is queued without a mailbox. -/
theorem queued_of_no_mailbox {c : Channel α} {id : SubscriberId} (h : c.mailbox? id = none) :
    c.queued id = [] := by
  rw [mailbox?] at h
  rw [queued, h]

/-- What is queued depends on the mailbox alone. -/
theorem queued_congr {c d : Channel α} {id : SubscriberId} (h : d.mailbox? id = c.mailbox? id) :
    d.queued id = c.queued id := by
  unfold mailbox? at h
  rw [queued, queued, h]

@[simp] theorem mailbox?_setMailbox_self (c : Channel α) (id : SubscriberId) (box : Mailbox α) :
    (c.setMailbox id box).mailbox? id = some box := Keyed.find?_put_self

theorem mailbox?_setMailbox_of_ne (c : Channel α) {id j : SubscriberId} (box : Mailbox α)
    (h : j ≠ id) : (c.setMailbox id box).mailbox? j = c.mailbox? j := Keyed.find?_put_of_ne h

/-- A valid channel holds at most its capacity for each subscriber. -/
theorem Valid.length_queued_le {c : Channel α} (hv : c.Valid) (id : SubscriberId) :
    (c.queued id).length ≤ c.capacity := by
  cases hb : c.mailbox? id with
  | none =>
    rw [queued_of_no_mailbox hb]
    exact Nat.zero_le _
  | some box =>
    rw [queued_of_mailbox hb, ← Queue.size_eq_length]
    exact hv.size_le id box hb

/-- An id that is still to be given out is not live. -/
theorem Valid.lt_of_live {c : Channel α} (hv : c.Valid) {id : SubscriberId} (h : id ∈ c.live) :
    id < c.nextId := hv.lt_nextId id (hv.held_of_live id h)

/-- An id that is still to be given out has no mailbox. -/
theorem Valid.mailbox?_nextId {c : Channel α} (hv : c.Valid) : c.mailbox? c.nextId = none := by
  by_contra h
  exact Nat.lt_irrefl _ (hv.lt_nextId _ h)

/-! ## A new channel -/

/-- The clamped capacity is positive. -/
theorem clampCapacity_pos (requested : Nat) : 0 < clampCapacity requested :=
  Nat.lt_of_lt_of_le Nat.zero_lt_one (Nat.le_max_left _ _)

/-- A new channel is valid. -/
theorem valid_create (name : String) (requested : Nat) :
    (create name requested : Channel α).Valid where
  capacity_pos := clampCapacity_pos requested
  ids_nodup := List.nodup_nil
  live_nodup := List.nodup_nil
  lt_nextId _ h := absurd rfl h
  held_of_live _ h := absurd h List.not_mem_nil
  size_le _ _ h := by cases h
  ended _ _ h := by cases h

/-! ## Subscribing -/

/-- A new subscriber starts with an empty mailbox; the others keep theirs. -/
theorem mailbox?_subscribe {c : Channel α} (hv : c.Valid) (id : SubscriberId) :
    c.subscribe.2.mailbox? id =
      if id = c.nextId then some ⟨.empty, false⟩ else c.mailbox? id := by
  have hfind : c.subscribe.2.mailbox? id =
      (c.mailbox? id).or (if c.nextId = id then some ⟨.empty, false⟩ else none) :=
    Keyed.find?_append_singleton _
  rw [hfind]
  by_cases h : id = c.nextId
  · rw [if_pos h.symm, if_pos h, h, hv.mailbox?_nextId, Option.none_or]
  · rw [if_neg (Ne.symm h), if_neg h, Option.or_none]

/-- Whoever subscribes is live at once. -/
theorem isSubscribed_subscribe (c : Channel α) : c.subscribe.2.isSubscribed c.nextId = true := by
  rw [isSubscribed_iff]
  exact List.mem_append_right _ (List.mem_singleton.2 rfl)

/-- Subscribing changes the standing of nobody else. -/
theorem isSubscribed_subscribe_of_ne (c : Channel α) {id : SubscriberId} (h : id ≠ c.nextId) :
    c.subscribe.2.isSubscribed id = c.isSubscribed id := by
  rw [Bool.eq_iff_iff, isSubscribed_iff, isSubscribed_iff]
  show id ∈ c.live ++ [c.nextId] ↔ id ∈ c.live
  rw [List.mem_append, List.mem_singleton]
  exact ⟨fun hm => hm.resolve_right h, Or.inl⟩

/-- A new subscriber has nothing queued. -/
theorem queued_subscribe_self {c : Channel α} (hv : c.Valid) :
    c.subscribe.2.queued c.nextId = [] := by
  have hb := mailbox?_subscribe hv c.nextId
  rw [if_pos rfl] at hb
  rw [queued_of_mailbox hb]
  rfl

/-- Subscribing keeps a channel valid. -/
theorem Valid.subscribe {c : Channel α} (hv : c.Valid) : c.subscribe.2.Valid where
  capacity_pos := hv.capacity_pos
  ids_nodup := by
    show ((c.mailboxes ++ [(c.nextId, _)]).map Prod.fst).Nodup
    have hfresh : c.nextId ∉ c.mailboxes.map Prod.fst := fun hmem =>
      Keyed.find?_ne_none_iff.2 hmem hv.mailbox?_nextId
    rw [List.map_append]
    exact hv.ids_nodup.append (List.nodup_singleton _) (List.disjoint_singleton.2 hfresh)
  live_nodup := by
    have hfresh : c.nextId ∉ c.live := fun hmem => Nat.lt_irrefl _ (hv.lt_of_live hmem)
    show (c.live ++ [c.nextId]).Nodup
    exact hv.live_nodup.append (List.nodup_singleton _) (List.disjoint_singleton.2 hfresh)
  lt_nextId id h := by
    show id < c.nextId + 1
    rw [mailbox?_subscribe hv] at h
    split at h
    · next he =>
      rw [he]
      exact Nat.lt_succ_self _
    · exact Nat.lt_succ_of_lt (hv.lt_nextId id h)
  held_of_live id h := by
    rw [mailbox?_subscribe hv]
    split
    · exact Option.some_ne_none _
    · next hne =>
      rw [← isSubscribed_iff, isSubscribed_subscribe_of_ne c hne, isSubscribed_iff] at h
      exact hv.held_of_live id h
  size_le id box h := by
    rw [mailbox?_subscribe hv] at h
    split at h
    · cases h
      exact Nat.zero_le _
    · exact hv.size_le id box h
  ended id box h he := by
    rw [mailbox?_subscribe hv] at h
    split at h
    · cases h
      cases he
    · next hne =>
      rw [← isSubscribed_iff, isSubscribed_subscribe_of_ne c hne, isSubscribed_iff]
      exact hv.ended id box h he

/-! ## Cutting off -/

/-- Whoever remains when one id is cut off. -/
theorem isSubscribed_filter_ne (c : Channel α) (id j : SubscriberId)
    (boxes : List (SubscriberId × Mailbox α)) :
    ({ c with live := c.live.filter (· != id), mailboxes := boxes } : Channel α).isSubscribed j =
      (c.isSubscribed j && j != id) := by
  rw [Bool.eq_iff_iff, isSubscribed_iff, Bool.and_eq_true, isSubscribed_iff]
  exact List.mem_filter

/-- Cutting an id off leaves the others live. -/
theorem isSubscribed_unsubscribe (c : Channel α) (id j : SubscriberId) :
    (c.unsubscribe id).2.isSubscribed j = (c.isSubscribed j && j != id) :=
  isSubscribed_filter_ne c id j c.mailboxes

/-- Cutting an id off touches no mailbox. -/
theorem mailbox?_unsubscribe (c : Channel α) (id j : SubscriberId) :
    (c.unsubscribe id).2.mailbox? j = c.mailbox? j := rfl

/-- Cutting off a part of the live subscribers keeps a channel valid. -/
theorem Valid.restrict {c : Channel α} (hv : c.Valid) (p : SubscriberId → Bool) :
    ({ c with live := c.live.filter p } : Channel α).Valid where
  capacity_pos := hv.capacity_pos
  ids_nodup := hv.ids_nodup
  live_nodup := hv.live_nodup.filter p
  lt_nextId := hv.lt_nextId
  held_of_live id h := hv.held_of_live id (List.mem_filter.1 h).1
  size_le := hv.size_le
  ended id box h he :=
    ⟨fun hm => (hv.ended id box h he).1 (List.mem_filter.1 hm).1, (hv.ended id box h he).2⟩

/-- Cutting an id off keeps a channel valid. -/
theorem Valid.unsubscribe {c : Channel α} (hv : c.Valid) (id : SubscriberId) :
    (c.unsubscribe id).2.Valid := hv.restrict (· != id)

/-- Cutting everyone off keeps a channel valid. -/
theorem Valid.close {c : Channel α} (hv : c.Valid) : c.close.Valid := by
  have hnone : c.live.filter (fun _ => false) = [] := List.filter_eq_nil_iff.2 (by simp)
  have h := hv.restrict fun _ => false
  rw [hnone] at h
  exact h

/-! ## Letting go of a mailbox -/

/-- Whoever lets go is cut off; the others stay live. -/
theorem isSubscribed_leave (c : Channel α) (id j : SubscriberId) :
    (c.leave id).isSubscribed j = (c.isSubscribed j && j != id) :=
  isSubscribed_filter_ne c id j (Keyed.erase id c.mailboxes)

/-- A mailbox that was let go of is gone. -/
theorem mailbox?_leave_self {c : Channel α} (hv : c.Valid) (id : SubscriberId) :
    (c.leave id).mailbox? id = none := Keyed.find?_erase_self hv.ids_nodup

/-- Letting go of one mailbox leaves the others. -/
theorem mailbox?_leave_of_ne (c : Channel α) {id j : SubscriberId} (h : j ≠ id) :
    (c.leave id).mailbox? j = c.mailbox? j := Keyed.find?_erase_of_ne h

/-- A mailbox that is left after one was let go of was there before. -/
theorem mailbox?_of_leave {c : Channel α} (hv : c.Valid) {id j : SubscriberId} {box : Mailbox α}
    (h : (c.leave id).mailbox? j = some box) : j ≠ id ∧ c.mailbox? j = some box := by
  by_cases hj : j = id
  · rw [hj, mailbox?_leave_self hv] at h
    cases h
  · rw [mailbox?_leave_of_ne c hj] at h
    exact ⟨hj, h⟩

/-- Letting go keeps a channel valid. -/
theorem Valid.leave {c : Channel α} (hv : c.Valid) (id : SubscriberId) : (c.leave id).Valid where
  capacity_pos := hv.capacity_pos
  ids_nodup := Keyed.nodup_keys_erase hv.ids_nodup
  live_nodup := hv.live_nodup.filter _
  lt_nextId j h := by
    obtain ⟨box, hb⟩ := Option.ne_none_iff_exists'.1 h
    have hb' := (mailbox?_of_leave hv hb).2
    exact hv.lt_nextId j (hb' ▸ Option.some_ne_none _)
  held_of_live j h := by
    rw [← isSubscribed_iff, isSubscribed_leave, Bool.and_eq_true, isSubscribed_iff, bne_iff_ne] at h
    rw [mailbox?_leave_of_ne c h.2]
    exact hv.held_of_live j h.1
  size_le j box h := hv.size_le j box (mailbox?_of_leave hv h).2
  ended j box h he := by
    obtain ⟨hlive, hempty⟩ := hv.ended j box (mailbox?_of_leave hv h).2 he
    exact ⟨fun hm => hlive (List.mem_filter.1 hm).1, hempty⟩

/-! ## Publishing -/

/-- Those stay live that accept the item. -/
theorem live_publish (c : Channel α) (item : α) :
    (c.publish item).2.live = c.live.filter (c.delivery · == .accepted) := by
  unfold publish
  rw [List.partition_eq_filter_filter]

/-- A published item goes to the end of the queue of everyone who stays live. -/
theorem mailbox?_publish (c : Channel α) (item : α) (id : SubscriberId) :
    (c.publish item).2.mailbox? id = (c.mailbox? id).map fun box =>
      if (c.publish item).2.isSubscribed id then { box with queue := box.queue.push item }
      else box := by
  have hboxes : (c.publish item).2.mailboxes = c.mailboxes.map fun e =>
      (e.1, if (c.publish item).2.isSubscribed e.1
        then { e.2 with queue := e.2.queue.push item } else e.2) := by
    unfold publish
    rw [List.partition_eq_filter_filter]
    rfl
  unfold mailbox?
  rw [hboxes]
  exact Keyed.find?_map fun id (box : Mailbox α) =>
    if (c.publish item).2.isSubscribed id then { box with queue := box.queue.push item } else box

/-- A subscriber stays live exactly if its queue has room. -/
theorem Valid.isSubscribed_publish {c : Channel α} (hv : c.Valid) (item : α) (id : SubscriberId) :
    (c.publish item).2.isSubscribed id = true ↔
      c.isSubscribed id = true ∧ (c.queued id).length < c.capacity := by
  rw [isSubscribed_iff, live_publish, List.mem_filter, isSubscribed_iff]
  refine and_congr_right fun hlive => ?_
  -- A live subscriber has a mailbox, so the room in its queue decides.
  obtain ⟨box, hb⟩ := Option.ne_none_iff_exists'.1 (hv.held_of_live id hlive)
  have hd : c.delivery id = if box.queue.size < c.capacity then .accepted else .full := by
    unfold mailbox? at hb
    rw [delivery, hb]
  rw [hd, queued_of_mailbox hb, ← Queue.size_eq_length]
  split <;> simp [*]

/-- What is queued after a publication. -/
theorem queued_publish (c : Channel α) (item : α) (id : SubscriberId)
    (hheld : c.mailbox? id ≠ none) :
    (c.publish item).2.queued id =
      if (c.publish item).2.isSubscribed id then c.queued id ++ [item] else c.queued id := by
  obtain ⟨box, hb⟩ := Option.ne_none_iff_exists'.1 hheld
  have hb' := mailbox?_publish c item id
  rw [hb, Option.map_some] at hb'
  rw [queued_of_mailbox hb', queued_of_mailbox hb]
  split
  · exact Queue.toList_push _ _
  · rfl

/-- Publishing keeps a channel valid. -/
theorem Valid.publish {c : Channel α} (hv : c.Valid) (item : α) : (c.publish item).2.Valid where
  capacity_pos := hv.capacity_pos
  ids_nodup := by
    show ((c.mailboxes.map _).map Prod.fst).Nodup
    rw [List.map_map]
    exact hv.ids_nodup
  live_nodup := by
    rw [live_publish]
    exact hv.live_nodup.filter _
  lt_nextId id h := by
    rw [mailbox?_publish] at h
    exact hv.lt_nextId id fun hn => h (by rw [hn, Option.map_none])
  held_of_live id h := by
    rw [live_publish] at h
    have hheld := hv.held_of_live id (List.mem_filter.1 h).1
    rw [mailbox?_publish]
    exact fun hn => hheld (Option.map_eq_none_iff.1 hn)
  size_le id box h := by
    rw [mailbox?_publish] at h
    obtain ⟨old, hold, rfl⟩ := Option.map_eq_some_iff.1 h
    split
    · next hs =>
      -- Only a queue with room gets the item.
      have hroom := ((hv.isSubscribed_publish item id).1 hs).2
      rw [queued_of_mailbox hold, ← Queue.size_eq_length] at hroom
      exact hroom
    · exact hv.size_le id old hold
  ended id box h he := by
    rw [mailbox?_publish] at h
    obtain ⟨old, hold, rfl⟩ := Option.map_eq_some_iff.1 h
    rw [apply_ite Mailbox.ended, ite_self] at he
    obtain ⟨hlive, hempty⟩ := hv.ended id old hold he
    -- A queue that was found at its end is cut off, so it does not get the item.
    have hcut : (c.publish item).2.isSubscribed id ≠ true := fun hs =>
      hlive ((isSubscribed_iff c id).1 ((hv.isSubscribed_publish item id).1 hs).1)
    rw [if_neg hcut]
    exact ⟨fun hm => hcut ((isSubscribed_iff _ id).2 hm), hempty⟩

/-! ## Receiving -/

/-- All that a receive can do: it finds no mailbox; it takes the first item; it finds nothing yet;
or it finds the queue at its end, and marks it so. -/
theorem receive_cases (c : Channel α) (id : SubscriberId) :
    (c.mailbox? id = none ∧ c.receive id = (.ended, c)) ∨
    (∃ box item queue, c.mailbox? id = some box ∧ box.queue.toList = item :: queue.toList ∧
      c.receive id = (.item item, c.setMailbox id { box with queue })) ∨
    (∃ box, c.mailbox? id = some box ∧ box.queue.toList = [] ∧ c.isSubscribed id = true ∧
      c.receive id = (.pending, c)) ∨
    (∃ box, c.mailbox? id = some box ∧ box.queue.toList = [] ∧ c.isSubscribed id = false ∧
      c.receive id = (.ended, c.setMailbox id { box with ended := true })) := by
  unfold mailbox?
  cases hb : Keyed.find? id c.mailboxes with
  | none =>
    refine Or.inl ⟨rfl, ?_⟩
    rw [receive, hb]
  | some box =>
    refine Or.inr ?_
    cases hp : box.queue.pop? with
    | some taken =>
      obtain ⟨item, queue⟩ := taken
      refine Or.inl ⟨box, item, queue, rfl, Queue.toList_of_pop?_eq_some hp, ?_⟩
      simp only [receive, hb, hp, setMailbox]
    | none =>
      have hempty := Queue.pop?_eq_none_iff.1 hp
      cases hs : c.isSubscribed id with
      | true =>
        refine Or.inr (Or.inl ⟨box, rfl, hempty, rfl, ?_⟩)
        simp [receive, hb, hp, hs]
      | false =>
        refine Or.inr (Or.inr ⟨box, rfl, hempty, rfl, ?_⟩)
        simp [receive, hb, hp, hs, setMailbox]

/-- A receive takes the first item that is queued. -/
theorem item?_receive (c : Channel α) (id : SubscriberId) :
    (c.receive id).1.item? = (c.queued id).head? := by
  obtain ⟨hb, hr⟩ | ⟨box, item, queue, hb, hq, hr⟩ | ⟨box, hb, hq, -, hr⟩ | ⟨box, hb, hq, -, hr⟩ :=
    receive_cases c id
  · rw [hr, queued_of_no_mailbox hb]
    rfl
  · rw [hr, queued_of_mailbox hb, hq]
    rfl
  · rw [hr, queued_of_mailbox hb, hq]
    rfl
  · rw [hr, queued_of_mailbox hb, hq]
    rfl

/-- A receive finds the end of a queue that is empty and cut off. -/
theorem receive_of_cut {c : Channel α} {id : SubscriberId} (hcut : c.isSubscribed id = false)
    (hempty : c.queued id = []) : (c.receive id).1 = .ended := by
  obtain ⟨-, hr⟩ | ⟨box, item, queue, hb, hq, -⟩ | ⟨box, -, -, hs, -⟩ | ⟨box, -, -, -, hr⟩ :=
    receive_cases c id
  · rw [hr]
  · rw [queued_of_mailbox hb, hq] at hempty
    cases hempty
  · cases hcut.symm.trans hs
  · rw [hr]

/-- A receive leaves the items behind the first one. -/
theorem queued_receive_self (c : Channel α) (id : SubscriberId) :
    (c.receive id).2.queued id = (c.queued id).tail := by
  obtain ⟨hb, hr⟩ | ⟨box, item, queue, hb, hq, hr⟩ | ⟨box, hb, hq, -, hr⟩ | ⟨box, hb, hq, -, hr⟩ :=
    receive_cases c id
  · rw [hr, queued_of_no_mailbox hb]
    rfl
  · rw [hr, queued_of_mailbox (mailbox?_setMailbox_self c id _), queued_of_mailbox hb, hq]
    rfl
  · rw [hr, queued_of_mailbox hb, hq]
    rfl
  · rw [hr, queued_of_mailbox (mailbox?_setMailbox_self c id _), queued_of_mailbox hb, hq]
    rfl

/-- A receive touches no other mailbox. -/
theorem mailbox?_receive_of_ne (c : Channel α) {id j : SubscriberId} (h : j ≠ id) :
    (c.receive id).2.mailbox? j = c.mailbox? j := by
  obtain ⟨-, hr⟩ | ⟨box, item, queue, -, -, hr⟩ | ⟨box, -, -, -, hr⟩ | ⟨box, -, -, -, hr⟩ :=
    receive_cases c id
  · rw [hr]
  · rw [hr, mailbox?_setMailbox_of_ne c _ h]
  · rw [hr]
  · rw [hr, mailbox?_setMailbox_of_ne c _ h]

/-- A receive neither makes nor loses a mailbox. -/
theorem mailbox?_receive_eq_none (c : Channel α) (id j : SubscriberId) :
    (c.receive id).2.mailbox? j = none ↔ c.mailbox? j = none := by
  by_cases h : j = id
  · subst h
    obtain ⟨-, hr⟩ | ⟨box, item, queue, hb, -, hr⟩ | ⟨box, -, -, -, hr⟩ | ⟨box, hb, -, -, hr⟩ :=
      receive_cases c j
    · rw [hr]
    · rw [hr, mailbox?_setMailbox_self, hb]
      simp
    · rw [hr]
    · rw [hr, mailbox?_setMailbox_self, hb]
      simp
  · rw [mailbox?_receive_of_ne c h]

/-- A receive changes nobody's standing. -/
theorem isSubscribed_receive (c : Channel α) (id j : SubscriberId) :
    (c.receive id).2.isSubscribed j = c.isSubscribed j := by
  obtain ⟨-, hr⟩ | ⟨box, item, queue, -, -, hr⟩ | ⟨box, -, -, -, hr⟩ | ⟨box, -, -, -, hr⟩ :=
    receive_cases c id <;> rw [hr] <;> rfl

/-- A mailbox may be replaced by one that is no fuller, and marked only at its end. -/
theorem Valid.setMailbox {c : Channel α} (hv : c.Valid) {id : SubscriberId} {box : Mailbox α}
    (hheld : c.mailbox? id ≠ none) (hsize : box.queue.size ≤ c.capacity)
    (hend : box.ended = true → id ∉ c.live ∧ box.queue.toList = []) :
    (c.setMailbox id box).Valid where
  capacity_pos := hv.capacity_pos
  ids_nodup := Keyed.nodup_keys_put hv.ids_nodup
  live_nodup := hv.live_nodup
  lt_nextId j h := by
    by_cases hj : j = id
    · exact hj ▸ hv.lt_nextId id hheld
    · rw [mailbox?_setMailbox_of_ne c box hj] at h
      exact hv.lt_nextId j h
  held_of_live j h := by
    by_cases hj : j = id
    · rw [hj, mailbox?_setMailbox_self]
      exact Option.some_ne_none _
    · rw [mailbox?_setMailbox_of_ne c box hj]
      exact hv.held_of_live j h
  size_le j b h := by
    by_cases hj : j = id
    · rw [hj, mailbox?_setMailbox_self] at h
      cases h
      exact hsize
    · rw [mailbox?_setMailbox_of_ne c box hj] at h
      exact hv.size_le j b h
  ended j b h he := by
    by_cases hj : j = id
    · rw [hj, mailbox?_setMailbox_self] at h
      cases h
      exact hj ▸ hend he
    · rw [mailbox?_setMailbox_of_ne c box hj] at h
      exact hv.ended j b h he

/-- Receiving keeps a channel valid. -/
theorem Valid.receive {c : Channel α} (hv : c.Valid) (id : SubscriberId) :
    (c.receive id).2.Valid := by
  obtain ⟨-, hr⟩ | ⟨box, item, queue, hb, hq, hr⟩ | ⟨box, -, -, -, hr⟩ | ⟨box, hb, hq, hs, hr⟩ :=
    receive_cases c id
  · rw [hr]
    exact hv
  · rw [hr]
    have hsize : queue.size + 1 = box.queue.size := by
      rw [Queue.size_eq_length, Queue.size_eq_length, hq, List.length_cons]
    have hle := hv.size_le id box hb
    have hsize' : queue.size ≤ c.capacity := by omega
    -- The queue had an item, so it was not marked as ended.
    refine hv.setMailbox (hb ▸ Option.some_ne_none _) hsize' fun he => ?_
    have hempty := (hv.ended id box hb he).2
    rw [hq] at hempty
    cases hempty
  · rw [hr]
    exact hv
  · rw [hr]
    -- The queue is marked only where it is empty and its subscriber cut off.
    refine hv.setMailbox (hb ▸ Option.some_ne_none _) (hv.size_le id box hb) fun _ => ?_
    refine ⟨fun hm => ?_, hq⟩
    have hlive := (isSubscribed_iff c id).2 hm
    rw [hlive] at hs
    cases hs

end LiveMap.Channel
