import LiveMap.Proofs.Channel.Delivery
import LiveMap.Proofs.Channel.Publish

/-!
# What the holder of a subscription does to a channel

Whoever uses a channel holds one subscription of it at most. In one move a holder publishes some
items, asks for its next item, subscribes, or lets go of what it holds. `Move` lists these moves,
with what is held before and after. From the list follows all that a move means to mailboxes
(`Move.mailbox?_ne_none_iff`) and to everybody else (`Move.standing_of_ne`).

Where holders do nothing else, there are two ways for a subscriber to be cut off: it lets go, or a
publication finds its queue full. `evictions` lists those to whom the latter happens in a run, and
`isSubscribed_run_iff_not_evicted` says that the live subscribers are all the others that still have
a mailbox. Whoever was evicted has a full queue (`Valid.full_of_evicted`), to which nothing is added
any more, and asking finds its end once it is empty (`Valid.findsEnd_eq`).
-/

namespace LiveMap.Channel

variable {α : Type}

/-- The holder asks for its next item. -/
def asks (held : Option SubscriberId) : List (Action α) :=
  held.toList.map fun id => .listen (.receive id)

/-- The holder lets go of what it holds. -/
def quits (held : Option SubscriberId) : List (Action α) :=
  held.toList.map fun id => .listen (.leave id)

/-- What a holder does to a channel in one move, with what it holds before and after. -/
inductive Move (c : Channel α) :
    Option SubscriberId → List (Action α) → Option SubscriberId → Prop where
  /-- It publishes some items, or none. -/
  | tells (held : Option SubscriberId) (items : List α) : Move c held (items.map .publish) held
  /-- It asks for its next item. -/
  | asks (held : Option SubscriberId) : Move c held (asks held) held
  /-- It subscribes. -/
  | joins : Move c none [.listen .subscribe] (some c.nextId)
  /-- It lets go. -/
  | quits (held : Option SubscriberId) : Move c held (quits held) none
  /-- It asks for its next item, and lets go. -/
  | leaves (held : Option SubscriberId) : Move c held (Channel.asks held ++ Channel.quits held) none

/-- Whether an action is one of those that holders do: nobody cuts off somebody else. -/
def Action.isOrderly : Action α → Bool
  | listen (.unsubscribe _) | close => false
  | publish _ | listen .subscribe | listen (.receive _) | listen (.leave _) => true

/-- Whether an action publishes something. -/
def Action.isPublication (a : Action α) : Bool := a.item?.isSome

/-- Whether a subscriber's queue is empty and cut off. -/
def isExhausted (c : Channel α) (id : SubscriberId) : Bool :=
  (c.queued id).isEmpty && !c.isSubscribed id

/-- Actions that publish something are the publications of what they publish. -/
theorem eq_map_publish {actions : List (Action α)}
    (h : ∀ a ∈ actions, a.isPublication = true) :
    actions = (published actions).map .publish := by
  induction actions with
  | nil => rfl
  | cons a rest ih =>
    have hrest := ih fun b hb => h b (List.mem_cons_of_mem a hb)
    have hfirst := h a List.mem_cons_self
    cases a with
    | publish item => exact congrArg (Action.publish item :: ·) hrest
    | listen l => cases hfirst
    | close => cases hfirst

/-- A move that does nothing. -/
theorem Move.nothing (c : Channel α) (held : Option SubscriberId) : Move c held [] held :=
  .tells held []

/-- Asking publishes nothing. -/
@[simp] theorem published_asks (held : Option SubscriberId) :
    published (asks held : List (Action α)) = [] := by
  cases held <;> rfl

/-- Letting go publishes nothing. -/
@[simp] theorem published_quits (held : Option SubscriberId) :
    published (quits held : List (Action α)) = [] := by
  cases held <;> rfl

/-! ## Mailboxes -/

/-- A mailbox stays until its holder lets go of it. -/
theorem mailbox?_act_ne_none {c : Channel α} (hv : c.Valid) {id : SubscriberId}
    (h : c.mailbox? id ≠ none) {a : Action α} (hheld : a.letsGo id = false) :
    (c.act a).mailbox? id ≠ none := by
  cases a with
  | publish item =>
    rw [act, mailbox?_publish]
    exact fun hn => h (Option.map_eq_none_iff.1 hn)
  | close => exact h
  | listen l =>
    cases l with
    | subscribe =>
      rw [act, listen, mailbox?_subscribe hv, if_neg (Nat.ne_of_lt (hv.lt_nextId id h))]
      exact h
    | receive j => exact fun hn => h ((mailbox?_receive_eq_none c j id).1 hn)
    | unsubscribe j => exact h
    | leave j =>
      have hne : id ≠ j := by
        rintro rfl
        rw [Action.letsGo, beq_self_eq_true] at hheld
        cases hheld
      rw [act, listen, mailbox?_leave_of_ne c hne]
      exact h

/-- A mailbox stays as long as its holder does not let go of it. -/
theorem mailbox?_run_ne_none {c : Channel α} (hv : c.Valid) {id : SubscriberId}
    (h : c.mailbox? id ≠ none) {actions : List (Action α)}
    (hheld : ∀ a ∈ actions, a.letsGo id = false) : (c.run actions).mailbox? id ≠ none := by
  induction actions generalizing c with
  | nil => exact h
  | cons a rest ih =>
    have hfirst := mailbox?_act_ne_none hv h (hheld a List.mem_cons_self)
    exact ih (hv.act a) hfirst fun b hb => hheld b (List.mem_cons_of_mem a hb)

/-- Only subscribing makes a mailbox. -/
theorem mailbox?_of_run_ne_none {c : Channel α} (hv : c.Valid) {id : SubscriberId}
    {actions : List (Action α)} (hjoins : .listen .subscribe ∉ actions)
    (h : (c.run actions).mailbox? id ≠ none) : c.mailbox? id ≠ none := by
  induction actions generalizing c with
  | nil => exact h
  | cons a rest ih =>
    have hbetween := ih (hv.act a) (fun hm => hjoins (List.mem_cons_of_mem a hm)) h
    intro hnone
    refine hbetween ?_
    cases a with
    | publish item => rw [act, mailbox?_publish, hnone, Option.map_none]
    | close => exact hnone
    | listen l =>
      cases l with
      | subscribe => exact absurd List.mem_cons_self hjoins
      | receive j => exact (mailbox?_receive_eq_none c j id).2 hnone
      | unsubscribe j => exact hnone
      | leave j =>
        by_cases hj : id = j
        · rw [hj]
          exact mailbox?_leave_self hv j
        · rw [act, listen, mailbox?_leave_of_ne c hj, hnone]

namespace Move

variable {c : Channel α} {held held' : Option SubscriberId} {actions : List (Action α)}

/-- Holders do nothing but what holders do. -/
theorem isOrderly (h : Move c held actions held') : ∀ a ∈ actions, a.isOrderly = true := by
  cases h with
  | tells _ items =>
    intro a ha
    obtain ⟨item, -, rfl⟩ := List.mem_map.1 ha
    rfl
  | asks =>
    intro a ha
    obtain ⟨id, -, rfl⟩ := List.mem_map.1 ha
    rfl
  | joins =>
    intro a ha
    rw [List.mem_singleton.1 ha]
    rfl
  | quits =>
    intro a ha
    obtain ⟨id, -, rfl⟩ := List.mem_map.1 ha
    rfl
  | leaves =>
    intro a ha
    rcases List.mem_append.1 ha with ha | ha
    · obtain ⟨id, -, rfl⟩ := List.mem_map.1 ha
      rfl
    · obtain ⟨id, -, rfl⟩ := List.mem_map.1 ha
      rfl

/-- All that a move does concerns what is held, apart from publications and the subscription. -/
theorem concerns (h : Move c held actions held') :
    ∀ a ∈ actions, a.isPublication = true ∨ a = .listen .subscribe ∨
      ∃ id, held = some id ∧ (a = .listen (.receive id) ∨ a = .listen (.leave id)) := by
  have hasks : ∀ a ∈ (Channel.asks held : List (Action α)),
      ∃ id, held = some id ∧ (a = .listen (.receive id) ∨ a = .listen (.leave id)) := by
    intro a ha
    obtain ⟨id, hid, rfl⟩ := List.mem_map.1 ha
    exact ⟨id, Option.mem_toList.1 hid, Or.inl rfl⟩
  have hquits : ∀ a ∈ (Channel.quits held : List (Action α)),
      ∃ id, held = some id ∧ (a = .listen (.receive id) ∨ a = .listen (.leave id)) := by
    intro a ha
    obtain ⟨id, hid, rfl⟩ := List.mem_map.1 ha
    exact ⟨id, Option.mem_toList.1 hid, Or.inr rfl⟩
  intro a ha
  cases h with
  | tells _ items =>
    obtain ⟨item, -, rfl⟩ := List.mem_map.1 ha
    exact Or.inl rfl
  | asks => exact Or.inr (Or.inr (hasks a ha))
  | joins => exact Or.inr (Or.inl (List.mem_singleton.1 ha))
  | quits => exact Or.inr (Or.inr (hquits a ha))
  | leaves =>
    rcases List.mem_append.1 ha with ha | ha
    · exact Or.inr (Or.inr (hasks a ha))
    · exact Or.inr (Or.inr (hquits a ha))

/-- What is held after a move was held before, or is new. -/
theorem held_of_held (h : Move c held actions held') {id : SubscriberId} (hid : held' = some id) :
    held = some id ∨ id = c.nextId := by
  cases h with
  | tells => exact Or.inl hid
  | asks => exact Or.inl hid
  | joins =>
    cases hid
    exact Or.inr rfl
  | quits => cases hid
  | leaves => cases hid

/-- After a move the same mailboxes exist, but for what was held before and with what is held
now. -/
theorem mailbox?_ne_none_iff (hv : c.Valid) (h : Move c held actions held')
    (hheld : ∀ id, held = some id → c.mailbox? id ≠ none) (id : SubscriberId) :
    (c.run actions).mailbox? id ≠ none ↔
      (c.mailbox? id ≠ none ∧ held ≠ some id) ∨ held' = some id := by
  -- A holder that neither subscribes nor lets go keeps all mailboxes as they are.
  have hkeeps : ∀ {kept : List (Action α)}, (∀ a ∈ kept, a.letsGo id = false) →
      .listen .subscribe ∉ kept →
      ((c.run kept).mailbox? id ≠ none ↔
        (c.mailbox? id ≠ none ∧ held ≠ some id) ∨ held = some id) := by
    intro kept hgo hjoins
    constructor
    · intro hafter
      by_cases hid : held = some id
      · exact Or.inr hid
      · exact Or.inl ⟨mailbox?_of_run_ne_none hv hjoins hafter, hid⟩
    · rintro (⟨hbefore, -⟩ | hid)
      · exact mailbox?_run_ne_none hv hbefore hgo
      · exact mailbox?_run_ne_none hv (hheld id hid) hgo
  -- A holder that lets go loses what it held.
  have hlets : ∀ {d : Channel α}, d.Valid → (d.mailbox? id ≠ none ↔ c.mailbox? id ≠ none) →
      ((d.run (Channel.quits held)).mailbox? id ≠ none ↔
        (c.mailbox? id ≠ none ∧ held ≠ some id) ∨ none = some id) := by
    intro d hd hsame
    cases held with
    | none =>
      show d.mailbox? id ≠ none ↔ _
      simp [hsame]
    | some own =>
      show (d.leave own).mailbox? id ≠ none ↔ _
      by_cases hid : id = own
      · subst hid
        simp [mailbox?_leave_self hd]
      · have hne : some own ≠ some id := fun he => hid (Option.some.inj he).symm
        rw [mailbox?_leave_of_ne d hid, hsame]
        simp [hne]
  cases h with
  | tells _ items =>
    refine hkeeps (fun a ha => ?_) fun hm => ?_
    · obtain ⟨item, -, rfl⟩ := List.mem_map.1 ha
      rfl
    · obtain ⟨item, -, hitem⟩ := List.mem_map.1 hm
      cases hitem
  | asks =>
    refine hkeeps (fun a ha => ?_) fun hm => ?_
    · obtain ⟨own, -, rfl⟩ := List.mem_map.1 ha
      rfl
    · obtain ⟨own, -, hown⟩ := List.mem_map.1 hm
      cases hown
  | joins =>
    show c.subscribe.2.mailbox? id ≠ none ↔ _
    rw [mailbox?_subscribe hv]
    by_cases hid : id = c.nextId
    · simp [hid]
    · have hne : some c.nextId ≠ some id := fun he => hid (Option.some.inj he).symm
      simp [hid, hne]
  | quits => exact hlets hv Iff.rfl
  | leaves =>
    rw [run_append]
    refine hlets (hv.run _) ?_
    cases held with
    | none => exact Iff.rfl
    | some own => exact not_congr (mailbox?_receive_eq_none c own id)

/-- A move that publishes nothing leaves everybody else's standing and queue as they are. -/
theorem standing_of_ne (hv : c.Valid) (h : Move c held actions held') {id : SubscriberId}
    (hid : held ≠ some id) (hlt : id < c.nextId)
    (hquiet : published actions = []) :
    (c.run actions).isSubscribed id = c.isSubscribed id ∧
      (c.run actions).queued id = c.queued id := by
  have hconcerns := h.concerns
  clear h
  induction actions generalizing c with
  | nil => exact ⟨rfl, rfl⟩
  | cons a rest ih =>
    rw [published_cons, List.append_eq_nil_iff] at hquiet
    have hfirst : (c.act a).isSubscribed id = c.isSubscribed id ∧
        (c.act a).queued id = c.queued id := by
      rcases hconcerns a List.mem_cons_self with hitem | rfl | ⟨j, hj, rfl | rfl⟩
      · rw [Action.isPublication, Option.toList_eq_nil_iff.1 hquiet.1] at hitem
        cases hitem
      · have hne := Nat.ne_of_lt hlt
        refine ⟨isSubscribed_subscribe_of_ne c hne, queued_congr ?_⟩
        show c.subscribe.2.mailbox? id = _
        rw [mailbox?_subscribe hv, if_neg hne]
      · have hne : id ≠ j := fun he => hid (he ▸ hj)
        exact ⟨isSubscribed_receive c j id, queued_congr (mailbox?_receive_of_ne c hne)⟩
      · have hne : id ≠ j := fun he => hid (he ▸ hj)
        refine ⟨?_, queued_congr (mailbox?_leave_of_ne c hne)⟩
        show (c.leave j).isSubscribed id = _
        rw [isSubscribed_leave, bne_iff_ne.2 hne, Bool.and_true]
    have hrest := ih (hv.act a) (Nat.lt_of_lt_of_le hlt (nextId_le_act c a))
      hquiet.2
      fun b hb => hconcerns b (List.mem_cons_of_mem a hb)
    exact ⟨hrest.1.trans hfirst.1, hrest.2.trans hfirst.2⟩

end Move

/-! ## Evictions -/

/-- Those whom one action cuts off because their queues are full. -/
def cutBy (c : Channel α) : Action α → List SubscriberId
  | .publish item => c.live.filter fun id => !(c.publish item).2.isSubscribed id
  | .listen _ | .close => []

/-- Those whom publications cut off in the course of some actions. -/
def evictions : Channel α → List (Action α) → List SubscriberId
  | _, [] => []
  | c, a :: rest => c.cutBy a ++ evictions (c.act a) rest

/-- Whether the live subscribers are those that have a mailbox and are not among the evicted, and
the evicted are known. -/
structure Counts (c : Channel α) (evicted : List SubscriberId) : Prop where
  /-- The evicted have been given out. -/
  lt_nextId : ∀ id ∈ evicted, id < c.nextId
  /-- The live ones are the others that have a mailbox. -/
  live_iff : ∀ id, c.isSubscribed id = true ↔ c.mailbox? id ≠ none ∧ id ∉ evicted

/-- A channel without subscribers has evicted nobody. -/
theorem counts_create (name : String) (requested : Nat) :
    (create name requested : Channel α).Counts [] where
  lt_nextId _ h := absurd h List.not_mem_nil
  live_iff id := ⟨fun h => (by cases h), fun h => absurd rfl h.1⟩

/-- What holders do keeps count of the evicted. -/
theorem Counts.act {c : Channel α} (hv : c.Valid) {evicted : List SubscriberId}
    (h : c.Counts evicted) {a : Action α} (ha : a.isOrderly = true) :
    (c.act a).Counts (evicted ++ c.cutBy a) := by
  have hnone : ∀ {d : Channel α}, (∀ id ∈ evicted, id < d.nextId) →
      (∀ id, d.isSubscribed id = true ↔ d.mailbox? id ≠ none ∧ id ∉ evicted) →
      d.Counts (evicted ++ []) := by
    intro d hlt hiff
    rw [List.append_nil]
    exact ⟨hlt, hiff⟩
  have hle : ∀ id ∈ evicted, id < (c.act a).nextId := fun id hid =>
    Nat.lt_of_lt_of_le (h.lt_nextId id hid) (nextId_le_act c a)
  cases a with
  | close => cases ha
  | publish item =>
    have hcut : ∀ id, id ∈ c.cutBy (.publish item) ↔
        c.isSubscribed id = true ∧ (c.publish item).2.isSubscribed id = false := by
      intro id
      rw [cutBy, List.mem_filter, isSubscribed_iff, Bool.not_eq_true']
    constructor
    case lt_nextId =>
      intro id hid
      rcases List.mem_append.1 hid with hold | hnew
      · exact h.lt_nextId id hold
      · exact hv.lt_of_live ((isSubscribed_iff c id).1 ((hcut id).1 hnew).1)
    case live_iff =>
      intro id
      have hlive : (c.publish item).2.isSubscribed id = true → c.isSubscribed id = true :=
        fun hs => ((hv.isSubscribed_publish item id).1 hs).1
      have hbox : (c.publish item).2.mailbox? id ≠ none ↔ c.mailbox? id ≠ none := by
        rw [mailbox?_publish]
        exact not_congr Option.map_eq_none_iff
      show (c.publish item).2.isSubscribed id = true ↔
        (c.publish item).2.mailbox? id ≠ none ∧ id ∉ evicted ++ c.cutBy (.publish item)
      rw [hbox, List.mem_append, hcut, not_or, not_and, Bool.not_eq_false]
      constructor
      · intro hs
        obtain ⟨hheld, hold⟩ := (h.live_iff id).1 (hlive hs)
        exact ⟨hheld, hold, fun _ => hs⟩
      · rintro ⟨hheld, hold, hstays⟩
        exact hstays ((h.live_iff id).2 ⟨hheld, hold⟩)
  | listen l =>
    cases l with
    | unsubscribe id => cases ha
    | subscribe =>
      refine hnone hle fun id => ?_
      by_cases hid : id = c.nextId
      · -- A new subscriber is live, and was not evicted before.
        have hfresh : id ∉ evicted := fun hm => by
          have hlt := h.lt_nextId id hm
          rw [hid] at hlt
          exact Nat.lt_irrefl _ hlt
        subst hid
        have hbox : c.subscribe.2.mailbox? c.nextId ≠ none := by
          rw [mailbox?_subscribe hv, if_pos rfl]
          exact Option.some_ne_none _
        exact ⟨fun _ => ⟨hbox, hfresh⟩, fun _ => isSubscribed_subscribe c⟩
      · show c.subscribe.2.isSubscribed id = true ↔ c.subscribe.2.mailbox? id ≠ none ∧ _
        rw [isSubscribed_subscribe_of_ne c hid, mailbox?_subscribe hv, if_neg hid]
        exact h.live_iff id
    | receive j =>
      refine hnone hle fun id => ?_
      show (c.receive j).2.isSubscribed id = true ↔ (c.receive j).2.mailbox? id ≠ none ∧ _
      rw [isSubscribed_receive, h.live_iff id]
      exact and_congr_left fun _ => (not_congr (mailbox?_receive_eq_none c j id)).symm
    | leave j =>
      refine hnone hle fun id => ?_
      show (c.leave j).isSubscribed id = true ↔ (c.leave j).mailbox? id ≠ none ∧ _
      rw [isSubscribed_leave]
      by_cases hid : id = j
      · subst hid
        rw [mailbox?_leave_self hv, bne_self_eq_false, Bool.and_false]
        exact ⟨fun hs => (by cases hs), fun hs => absurd rfl hs.1⟩
      · rw [mailbox?_leave_of_ne c hid, bne_iff_ne.2 hid, Bool.and_true]
        exact h.live_iff id

/-- Every run of what holders do keeps count of the evicted. -/
theorem Counts.run {c : Channel α} (hv : c.Valid) {evicted : List SubscriberId}
    (h : c.Counts evicted) {actions : List (Action α)}
    (hactions : ∀ a ∈ actions, a.isOrderly = true) :
    (c.run actions).Counts (evicted ++ evictions c actions) := by
  induction actions generalizing c evicted with
  | nil =>
    rw [evictions, List.append_nil]
    exact h
  | cons a rest ih =>
    have hfirst := h.act hv (hactions a List.mem_cons_self)
    have hrest := ih (hv.act a) hfirst fun b hb => hactions b (List.mem_cons_of_mem a hb)
    rw [List.append_assoc] at hrest
    exact hrest

/-- On a channel of which only holders make use, the live subscribers are those that have a mailbox
and were not evicted. -/
theorem isSubscribed_run_iff_not_evicted (name : String) (requested : Nat)
    {actions : List (Action α)} (hactions : ∀ a ∈ actions, a.isOrderly = true)
    (id : SubscriberId) :
    ((create name requested : Channel α).run actions).isSubscribed id = true ↔
      ((create name requested : Channel α).run actions).mailbox? id ≠ none ∧
        id ∉ evictions (create name requested) actions :=
  ((counts_create name requested).run (valid_create name requested) hactions).live_iff id

/-! ## The end of a queue -/

/-- Whoever is not asked for receives nothing. -/
theorem received_of_no_receive {id : SubscriberId} {actions : List (Action α)}
    (h : .listen (.receive id) ∉ actions) (c : Channel α) : received id c actions = [] := by
  induction actions generalizing c with
  | nil => rfl
  | cons a rest ih =>
    have hfirst : taken id c a = [] := by
      cases a with
      | publish item => rfl
      | close => rfl
      | listen l =>
        cases l with
        | subscribe | unsubscribe j | leave j => rfl
        | receive j =>
          have hne : j ≠ id := fun he => h (he ▸ List.mem_cons_self)
          exact if_neg hne
    rw [received, hfirst, ih fun hm => h (List.mem_cons_of_mem a hm)]
    rfl

/-- Asking hands out the first item that is queued. -/
theorem received_asks (c : Channel α) (id : SubscriberId) :
    received id c (asks (some id)) = (c.queued id).head?.toList := by
  show taken id c (.listen (.receive id)) ++ [] = _
  rw [taken, if_pos rfl, item?_receive, List.append_nil]

/-- To the queue of whoever is cut off nothing is added any more. -/
theorem Valid.received_append_queued_of_cut {c : Channel α} (hv : c.Valid) {id : SubscriberId}
    (hid : id < c.nextId) (hcut : c.isSubscribed id = false) {actions : List (Action α)}
    (hheld : ∀ a ∈ actions, a.letsGo id = false) :
    received id c actions ++ (c.run actions).queued id = c.queued id := by
  rw [received_append_queued_of_held hv hid hheld, attended_of_not_live hid hcut]
  exact List.append_nil _

/-- Whoever is evicted in the course of some actions, and takes nothing, is cut off with a full
queue. -/
theorem Valid.full_of_evicted {c : Channel α} (hv : c.Valid) {id : SubscriberId}
    {actions : List (Action α)} (hasks : .listen (.receive id) ∉ actions)
    (hheld : ∀ a ∈ actions, a.letsGo id = false) (h : id ∈ evictions c actions) :
    (c.run actions).isSubscribed id = false ∧ ((c.run actions).queued id).length = c.capacity := by
  induction actions generalizing c with
  | nil => cases h
  | cons a rest ih =>
    have hasks' : .listen (.receive id) ∉ rest := fun hm => hasks (List.mem_cons_of_mem a hm)
    have hheld' : ∀ b ∈ rest, b.letsGo id = false := fun b hb =>
      hheld b (List.mem_cons_of_mem a hb)
    rcases List.mem_append.1 h with hnow | hlater
    · cases a with
      | listen l => cases hnow
      | close => cases hnow
      | publish item =>
        obtain ⟨hmem, hgone⟩ := List.mem_filter.1 hnow
        have hlive : c.isSubscribed id = true := (isSubscribed_iff c id).2 hmem
        have hcut : (c.publish item).2.isSubscribed id = false := by
          rw [← Bool.not_eq_true']
          exact hgone
        have hfull := (hv.cut_iff_full item hlive).1 hcut
        have hid : id < (c.publish item).2.nextId := hv.lt_of_live hmem
        -- From here on nothing is added to the queue, and nothing taken.
        have hkept := (hv.publish item).received_append_queued_of_cut hid hcut hheld'
        rw [received_of_no_receive hasks', List.nil_append, hv.queued_publish_of_live item hlive,
          if_pos hfull, List.append_nil] at hkept
        refine ⟨Bool.eq_false_iff.2 fun hback => ?_, (congrArg List.length hkept).trans hfull⟩
        have hbefore : (c.publish item).2.isSubscribed id = true := isSubscribed_of_run hid hback
        rw [hcut] at hbefore
        cases hbefore
    · have hrest := ih (hv.act a) hasks' hheld' hlater
      rw [capacity_act] at hrest
      exact hrest

/-- If nothing was queued for a subscriber at first, what it has received is an initial part of what
was published. -/
theorem received_initial {c : Channel α} (hv : c.Valid) {id : SubscriberId} (hid : id < c.nextId)
    (hempty : c.queued id = []) (actions : List (Action α)) :
    received id c actions <+: published actions := by
  have hlaw := received_append_leftover hv hid actions
  rw [hempty, List.nil_append] at hlaw
  have hseen : received id c actions <+: published (attended id c actions) :=
    hlaw ▸ List.prefix_append _ _
  exact hseen.trans ((attended_initial id c actions).filterMap Action.item?)

/-- Whether a receive finds nothing, and leaves the queue marked as being at its end. -/
def findsEnd (c : Channel α) (id : SubscriberId) : Bool :=
  (c.queued id).head?.isNone && (c.receive id).2.hasEnded id

/-- A receive finds the end of a queue exactly if the queue is empty and cut off. -/
theorem Valid.findsEnd_eq {c : Channel α} (hv : c.Valid) {id : SubscriberId}
    (hheld : c.mailbox? id ≠ none) : c.findsEnd id = c.isExhausted id := by
  have hended : ∀ {d : Channel α} {box : Mailbox α}, d.mailbox? id = some box →
      d.hasEnded id = box.ended := by
    intro d box hb
    unfold mailbox? at hb
    rw [hasEnded, hb]
  unfold findsEnd isExhausted
  obtain ⟨hb, -⟩ | ⟨box, item, queue, hb, hq, hr⟩ | ⟨box, hb, hq, hs, hr⟩ | ⟨box, hb, hq, hs, hr⟩ :=
    receive_cases c id
  · exact absurd hb hheld
  · rw [queued_of_mailbox hb, hq]
    rfl
  · -- A live subscriber's queue is not marked as ended.
    have hopen : box.ended ≠ true := fun he =>
      (hv.ended id box hb he).1 ((isSubscribed_iff c id).1 hs)
    rw [queued_of_mailbox hb, hq, hr, hended hb, hs, Bool.eq_false_iff.2 hopen]
    rfl
  · rw [queued_of_mailbox hb, hq, hr, hended (mailbox?_setMailbox_self c id _), hs]
    rfl

/-- Whoever holds nothing finds no end. -/
theorem Valid.any_findsEnd_eq {c : Channel α} (hv : c.Valid) {held : Option SubscriberId}
    (hheld : ∀ id, held = some id → c.mailbox? id ≠ none) :
    held.any c.findsEnd = held.any c.isExhausted := by
  cases held with
  | none => rfl
  | some id => exact hv.findsEnd_eq (hheld id rfl)

end LiveMap.Channel
