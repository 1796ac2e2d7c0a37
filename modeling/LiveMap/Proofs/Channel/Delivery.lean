import LiveMap.Proofs.Channel.Valid

/-!
# What one subscriber sees of a channel

A run of a channel is a list of actions: publications, and what subscribers do (subscribe, receive,
cut an id off, let go of a mailbox). The law of one step says that what a subscriber takes, followed
by what is queued for it afterwards, is what was queued for it before, followed by the published
item if the subscriber is still live. By induction on the run, what a subscriber has received
followed by what is left in its queue is the contiguous run of the items that were published while
it was live (`received_append_leftover`). Once it is not live it never is again, and it can only
receive what it still had.

Main statement: `subscriber_sees_contiguous_run`, for every run of every new channel and for every
subscription made in it.
-/

namespace LiveMap.Channel

variable {α : Type}

/-- What subscribers do to a channel. -/
inductive Listening where
  /-- Someone subscribes. -/
  | subscribe
  /-- The holder of a queue asks for its next item. -/
  | receive (id : SubscriberId)
  /-- Someone cuts an id off. -/
  | unsubscribe (id : SubscriberId)
  /-- The holder of a queue lets go of it. -/
  | leave (id : SubscriberId)

/-- All that happens to a channel. -/
inductive Action (α : Type) where
  /-- An item is published. -/
  | publish (item : α)
  /-- A subscriber does something. -/
  | listen (l : Listening)
  /-- The channel itself goes away, which cuts everyone off. -/
  | close

/-- Whether an action cuts `id` off in any case, whatever is queued for it. -/
def Action.cutsOff (id : SubscriberId) : Action α → Bool
  | listen (.unsubscribe j) | listen (.leave j) => j == id
  | close => true
  | publish _ | listen .subscribe | listen (.receive _) => false

/-- The item that an action publishes. -/
def Action.item? : Action α → Option α
  | publish item => some item
  | listen _ | close => none

/-- Whether an action lets go of the queue of `id`. -/
def Action.letsGo (id : SubscriberId) : Action α → Bool
  | listen (.leave j) => j == id
  | _ => false

/-- The channel after a subscriber has done something. -/
def listen (c : Channel α) : Listening → Channel α
  | .subscribe => c.subscribe.2
  | .receive id => (c.receive id).2
  | .unsubscribe id => (c.unsubscribe id).2
  | .leave id => c.leave id

/-- The channel after an action. -/
def act (c : Channel α) : Action α → Channel α
  | .publish item => (c.publish item).2
  | .listen l => c.listen l
  | .close => c.close

/-- The channel after some actions in turn. -/
def run (c : Channel α) (actions : List (Action α)) : Channel α := actions.foldl act c

/-- The items that some actions publish, in order. -/
def published (actions : List (Action α)) : List α := actions.filterMap Action.item?

/-- The items that one action hands to a subscriber: one at most. -/
def taken (id : SubscriberId) (c : Channel α) : Action α → List α
  | .listen (.receive j) => if j = id then (c.receive id).1.item?.toList else []
  | _ => []

/-- The items that a subscriber receives in the course of some actions, in order. -/
def received (id : SubscriberId) : Channel α → List (Action α) → List α
  | _, [] => []
  | c, a :: rest => taken id c a ++ received id (c.act a) rest

/-- What is left in a subscriber's queue after some actions, or was left in it when its holder let
go of it. -/
def leftover (id : SubscriberId) : Channel α → List (Action α) → List α
  | c, [] => c.queued id
  | c, a :: rest => if a.letsGo id then c.queued id else leftover id (c.act a) rest

/-- The actions that a subscriber outlasts: those up to the one after which it is not live. -/
def attended (id : SubscriberId) : Channel α → List (Action α) → List (Action α)
  | _, [] => []
  | c, a :: rest => if (c.act a).isSubscribed id then a :: attended id (c.act a) rest else []

@[simp] theorem run_nil (c : Channel α) : c.run [] = c := rfl

@[simp] theorem run_cons (c : Channel α) (a : Action α) (rest : List (Action α)) :
    c.run (a :: rest) = (c.act a).run rest := rfl

theorem run_append (c : Channel α) (first second : List (Action α)) :
    c.run (first ++ second) = (c.run first).run second := List.foldl_append

theorem published_append (first second : List (Action α)) :
    published (first ++ second) = published first ++ published second := List.filterMap_append

theorem published_cons (a : Action α) (rest : List (Action α)) :
    published (a :: rest) = a.item?.toList ++ published rest := by
  cases h : a.item? with
  | none =>
    rw [published, List.filterMap_cons_none h, Option.toList_none, List.nil_append, published]
  | some item =>
    rw [published, List.filterMap_cons_some h, Option.toList_some, List.singleton_append, published]

/-- Only leaving lets go of a queue. -/
theorem Action.eq_leave_of_letsGo {id : SubscriberId} {a : Action α} (h : a.letsGo id = true) :
    a = .listen (.leave id) := by
  unfold letsGo at h
  split at h
  · rw [beq_iff_eq.1 h]
  · cases h

/-! ## One action -/

/-- Every action keeps a channel valid. -/
theorem Valid.act {c : Channel α} (hv : c.Valid) (a : Action α) : (c.act a).Valid := by
  cases a with
  | publish item => exact hv.publish item
  | close => exact hv.close
  | listen l =>
    cases l with
    | subscribe => exact hv.subscribe
    | receive id => exact hv.receive id
    | unsubscribe id => exact hv.unsubscribe id
    | leave id => exact hv.leave id

/-- A receive gives out no ids and changes no capacity. -/
theorem frame_receive (c : Channel α) (id : SubscriberId) :
    (c.receive id).2.nextId = c.nextId ∧ (c.receive id).2.capacity = c.capacity := by
  obtain ⟨-, hr⟩ | ⟨box, item, queue, -, -, hr⟩ | ⟨box, -, -, -, hr⟩ | ⟨box, -, -, -, hr⟩ :=
    receive_cases c id <;> rw [hr] <;> exact ⟨rfl, rfl⟩

/-- No action changes the capacity. -/
theorem capacity_act (c : Channel α) (a : Action α) : (c.act a).capacity = c.capacity := by
  cases a with
  | publish item => rfl
  | close => rfl
  | listen l =>
    cases l with
    | receive id => exact (frame_receive c id).2
    | subscribe => rfl
    | unsubscribe id => rfl
    | leave id => rfl

/-- Ids that were given out stay given out. -/
theorem nextId_le_act (c : Channel α) (a : Action α) : c.nextId ≤ (c.act a).nextId := by
  cases a with
  | publish item => exact Nat.le_refl _
  | close => exact Nat.le_refl _
  | listen l =>
    cases l with
    | subscribe => exact Nat.le_succ _
    | receive id => exact Nat.le_of_eq (frame_receive c id).1.symm
    | unsubscribe id => exact Nat.le_refl _
    | leave id => exact Nat.le_refl _

/-- Only a new subscriber becomes live. -/
theorem isSubscribed_of_act {c : Channel α} {id : SubscriberId} (hid : id < c.nextId)
    {a : Action α} (h : (c.act a).isSubscribed id = true) : c.isSubscribed id = true := by
  cases a with
  | publish item =>
    rw [act, isSubscribed_iff, live_publish] at h
    exact (isSubscribed_iff c id).2 (List.mem_filter.1 h).1
  | close => cases h
  | listen l =>
    cases l with
    | subscribe => rwa [act, listen, isSubscribed_subscribe_of_ne c (Nat.ne_of_lt hid)] at h
    | receive j => rwa [act, listen, isSubscribed_receive] at h
    | unsubscribe j =>
      rw [act, listen, isSubscribed_unsubscribe, Bool.and_eq_true] at h
      exact h.1
    | leave j =>
      rw [act, listen, isSubscribed_leave, Bool.and_eq_true] at h
      exact h.1

/-- A mailbox that was let go of does not come back. -/
theorem mailbox?_act_of_none {c : Channel α} (hv : c.Valid) {id : SubscriberId}
    (hid : id < c.nextId) (h : c.mailbox? id = none) (a : Action α) :
    (c.act a).mailbox? id = none := by
  cases a with
  | publish item => rw [act, mailbox?_publish, h, Option.map_none]
  | close => exact h
  | listen l =>
    cases l with
    | subscribe => rw [act, listen, mailbox?_subscribe hv, if_neg (Nat.ne_of_lt hid), h]
    | receive j => exact (mailbox?_receive_eq_none c j id).2 h
    | unsubscribe j => exact h
    | leave j =>
      by_cases hj : id = j
      · rw [hj]
        exact mailbox?_leave_self hv j
      · rw [act, listen, mailbox?_leave_of_ne c hj, h]

/-- Without a mailbox nothing is received. -/
theorem taken_of_no_mailbox {c : Channel α} {id : SubscriberId} (h : c.mailbox? id = none)
    (a : Action α) : taken id c a = [] := by
  unfold taken
  split
  · rw [item?_receive, queued_of_no_mailbox h]
    split <;> rfl
  · rfl

/-- The law of one step: what a subscriber takes, followed by what is queued for it afterwards, is
what was queued for it before, followed by the published item if the subscriber is still live. -/
theorem taken_append_queued {c : Channel α} (hv : c.Valid) {id : SubscriberId}
    (hid : id < c.nextId) {a : Action α} (hheld : a.letsGo id = false) :
    taken id c a ++ (c.act a).queued id =
      c.queued id ++ if (c.act a).isSubscribed id then a.item?.toList else [] := by
  cases a with
  | publish item =>
    show [] ++ (c.publish item).2.queued id =
      c.queued id ++ if (c.publish item).2.isSubscribed id then [item] else []
    rw [List.nil_append]
    cases hb : c.mailbox? id with
    | none =>
      -- Whoever has no mailbox is not live, so the item does not reach it.
      have hcut : (c.publish item).2.isSubscribed id ≠ true := fun hs =>
        hv.held_of_live id ((isSubscribed_iff c id).1
          ((hv.isSubscribed_publish item id).1 hs).1) hb
      have hb' : (c.publish item).2.mailbox? id = none := by
        rw [mailbox?_publish, hb, Option.map_none]
      rw [if_neg hcut, queued_of_no_mailbox hb, queued_of_no_mailbox hb', List.append_nil]
    | some box =>
      rw [queued_publish c item id (hb ▸ Option.some_ne_none _)]
      split
      · rfl
      · rw [List.append_nil]
  | close =>
    show c.queued id = c.queued id ++ if (c.close).isSubscribed id then [] else []
    rw [ite_self, List.append_nil]
  | listen l =>
    have hitem : (if (c.act (.listen l)).isSubscribed id then
        (Action.listen l : Action α).item?.toList else []) = [] := ite_self _
    rw [hitem, List.append_nil]
    cases l with
    | subscribe =>
      show [] ++ c.subscribe.2.queued id = c.queued id
      rw [List.nil_append]
      apply queued_congr
      rw [mailbox?_subscribe hv, if_neg (Nat.ne_of_lt hid)]
    | receive j =>
      rw [taken]
      by_cases hj : j = id
      · subst hj
        rw [if_pos rfl, act, listen, item?_receive, queued_receive_self]
        cases c.queued j <;> rfl
      · rw [if_neg hj, List.nil_append]
        exact queued_congr (mailbox?_receive_of_ne c (Ne.symm hj))
    | unsubscribe j => exact queued_congr (mailbox?_unsubscribe c j id)
    | leave j =>
      have hj : id ≠ j := by
        rintro rfl
        rw [Action.letsGo, beq_self_eq_true] at hheld
        cases hheld
      exact queued_congr (mailbox?_leave_of_ne c hj)

/-! ## A run -/

/-- Every run keeps a channel valid. -/
theorem Valid.run {c : Channel α} (hv : c.Valid) (actions : List (Action α)) :
    (c.run actions).Valid := by
  induction actions generalizing c with
  | nil => exact hv
  | cons a rest ih => exact ih (hv.act a)

/-- No run changes the capacity. -/
theorem capacity_run (c : Channel α) (actions : List (Action α)) :
    (c.run actions).capacity = c.capacity := by
  induction actions generalizing c with
  | nil => rfl
  | cons a rest ih => rw [run_cons, ih, capacity_act]

/-- Ids that were given out stay given out. -/
theorem nextId_le_run (c : Channel α) (actions : List (Action α)) :
    c.nextId ≤ (c.run actions).nextId := by
  induction actions generalizing c with
  | nil => exact Nat.le_refl _
  | cons a rest ih => exact Nat.le_trans (nextId_le_act c a) (ih (c.act a))

/-- Whoever is live after a run was live before it. -/
theorem isSubscribed_of_run {c : Channel α} {id : SubscriberId} (hid : id < c.nextId)
    {actions : List (Action α)} (h : (c.run actions).isSubscribed id = true) :
    c.isSubscribed id = true := by
  induction actions generalizing c with
  | nil => exact h
  | cons a rest ih =>
    exact isSubscribed_of_act hid (ih (Nat.lt_of_lt_of_le hid (nextId_le_act c a)) h)

/-- Without a mailbox nothing is ever received. -/
theorem received_of_no_mailbox {c : Channel α} (hv : c.Valid) {id : SubscriberId}
    (hid : id < c.nextId) (h : c.mailbox? id = none) (actions : List (Action α)) :
    received id c actions = [] := by
  induction actions generalizing c with
  | nil => rfl
  | cons a rest ih =>
    rw [received, taken_of_no_mailbox h, List.nil_append]
    exact ih (hv.act a) (Nat.lt_of_lt_of_le hid (nextId_le_act c a))
      (mailbox?_act_of_none hv hid h a)

/-- Whoever is not live outlasts no action. -/
theorem attended_of_not_live {c : Channel α} {id : SubscriberId} (hid : id < c.nextId)
    (h : c.isSubscribed id = false) (actions : List (Action α)) : attended id c actions = [] := by
  cases actions with
  | nil => rfl
  | cons a rest =>
    have hcut : (c.act a).isSubscribed id ≠ true := fun hs => by
      rw [isSubscribed_of_act hid hs] at h
      cases h
    rw [attended, if_neg hcut]

/-- Letting go of a queue ends what its holder receives. -/
theorem received_of_letsGo {c : Channel α} (hv : c.Valid) {id : SubscriberId}
    (hid : id < c.nextId) {a : Action α} (h : a.letsGo id = true) (rest : List (Action α)) :
    received id c (a :: rest) = [] ∧ attended id c (a :: rest) = [] := by
  rw [Action.eq_leave_of_letsGo h]
  refine ⟨received_of_no_mailbox (hv.leave id) hid (mailbox?_leave_self hv id) rest, ?_⟩
  have hcut : (c.leave id).isSubscribed id ≠ true := by
    rw [isSubscribed_leave, bne_self_eq_false, Bool.and_false]
    exact Bool.false_ne_true
  exact if_neg hcut

/-- A mailbox that was let go of does not come back in any run. -/
theorem mailbox?_run_of_none {c : Channel α} (hv : c.Valid) {id : SubscriberId}
    (hid : id < c.nextId) (h : c.mailbox? id = none) (actions : List (Action α)) :
    (c.run actions).mailbox? id = none := by
  induction actions generalizing c with
  | nil => exact h
  | cons a rest ih =>
    exact ih (hv.act a) (Nat.lt_of_lt_of_le hid (nextId_le_act c a))
      (mailbox?_act_of_none hv hid h a)

/-- What a subscriber receives in two parts of a run. -/
theorem received_append (id : SubscriberId) (c : Channel α) (first second : List (Action α)) :
    received id c (first ++ second) = received id c first ++ received id (c.run first) second := by
  induction first generalizing c with
  | nil => rfl
  | cons a rest ih => rw [List.cons_append, received, ih, received, List.append_assoc, run_cons]

/-- Publications hand nothing out. -/
theorem received_map_publish (id : SubscriberId) (c : Channel α) (items : List α) :
    received id c (items.map .publish) = [] := by
  induction items generalizing c with
  | nil => rfl
  | cons item items ih => exact ih (c.publish item).2

/-- What a subscriber has received, followed by what is left in its queue, is what was queued for it
at first, followed by the items published while it was live. -/
theorem received_append_leftover {c : Channel α} (hv : c.Valid) {id : SubscriberId}
    (hid : id < c.nextId) (actions : List (Action α)) :
    received id c actions ++ leftover id c actions =
      c.queued id ++ published (attended id c actions) := by
  induction actions generalizing c with
  | nil => exact (List.append_nil _).symm
  | cons a rest ih =>
    cases hheld : a.letsGo id with
    | true =>
      -- Nothing is received from here on, and what is queued stays left over.
      obtain ⟨hreceived, hattended⟩ := received_of_letsGo hv hid hheld rest
      rw [hreceived, hattended, leftover, if_pos hheld]
      exact (List.append_nil _).symm
    | false =>
      -- The law of this step, and the induction hypothesis for the rest of the run.
      have hlaw := taken_append_queued hv hid hheld
      have hid' := Nat.lt_of_lt_of_le hid (nextId_le_act c a)
      have hrest := ih (hv.act a) hid'
      rw [received, leftover, hheld, if_neg Bool.false_ne_true, List.append_assoc, hrest,
        ← List.append_assoc, hlaw, List.append_assoc]
      cases hs : (c.act a).isSubscribed id with
      | true => rw [if_pos rfl, attended, if_pos hs, published_cons]
      | false =>
        -- Whoever is not live after this step attends neither it nor the rest.
        have hcut : (c.act a).isSubscribed id ≠ true := fun h => by
          rw [hs] at h
          cases h
        rw [if_neg Bool.false_ne_true, attended_of_not_live hid' hs, attended, if_neg hcut]
        rfl

/-- The actions that a subscriber outlasts come first. -/
theorem attended_initial (id : SubscriberId) (c : Channel α) (actions : List (Action α)) :
    attended id c actions <+: actions := by
  induction actions generalizing c with
  | nil => exact List.prefix_rfl
  | cons a rest ih =>
    rw [attended]
    split
    · exact (List.prefix_cons_inj a).2 (ih (c.act a))
    · exact List.nil_prefix

/-- A subscriber is live exactly as long as it outlasts all actions. -/
theorem isSubscribed_run_iff {c : Channel α} {id : SubscriberId} (hid : id < c.nextId)
    (hlive : c.isSubscribed id = true) (early late : List (Action α)) :
    (c.run early).isSubscribed id = true ↔ early <+: attended id c (early ++ late) := by
  induction early generalizing c with
  | nil => exact ⟨fun _ => List.nil_prefix, fun _ => hlive⟩
  | cons a early ih =>
    have hid' := Nat.lt_of_lt_of_le hid (nextId_le_act c a)
    rw [run_cons, List.cons_append, attended]
    by_cases hs : (c.act a).isSubscribed id = true
    · rw [if_pos hs, List.prefix_cons_inj]
      exact ih hid' hs
    · -- Whoever is not live now is not live later, and `attended` ends here.
      rw [if_neg hs]
      constructor
      · exact fun h => absurd (isSubscribed_of_run hid' h) hs
      · intro h
        cases List.prefix_nil.1 h

/-- Whoever is live at the end has outlasted all actions. -/
theorem attended_of_live {c : Channel α} {id : SubscriberId} (hid : id < c.nextId)
    {actions : List (Action α)} (h : (c.run actions).isSubscribed id = true) :
    attended id c actions = actions := by
  have hall := (isSubscribed_run_iff hid (isSubscribed_of_run hid h) actions []).1 h
  rw [List.append_nil] at hall
  exact (attended_initial id c actions).eq_of_length_le hall.length_le

/-- Whoever is live at the end has not let go of its queue. -/
theorem leftover_of_live {c : Channel α} {id : SubscriberId} (hid : id < c.nextId)
    {actions : List (Action α)} (h : (c.run actions).isSubscribed id = true) :
    leftover id c actions = (c.run actions).queued id := by
  induction actions generalizing c with
  | nil => rfl
  | cons a rest ih =>
    have hid' := Nat.lt_of_lt_of_le hid (nextId_le_act c a)
    have hs : (c.act a).isSubscribed id = true := isSubscribed_of_run hid' h
    have hheld : a.letsGo id ≠ true := by
      intro hgo
      rw [Action.eq_leave_of_letsGo hgo, act, listen, isSubscribed_leave, bne_self_eq_false,
        Bool.and_false] at hs
      cases hs
    rw [leftover, if_neg hheld, ih hid' h, run_cons]

/-- Whoever is live at the end of a run has received or still has queued what was queued at first
and all that was published since. -/
theorem received_append_queued_of_live {c : Channel α} (hv : c.Valid) {id : SubscriberId}
    (hid : id < c.nextId) {actions : List (Action α)}
    (h : (c.run actions).isSubscribed id = true) :
    received id c actions ++ (c.run actions).queued id = c.queued id ++ published actions := by
  rw [← leftover_of_live hid h, received_append_leftover hv hid, attended_of_live hid h]

/-- Whoever has not let go of its queue has received or still has queued what was queued at first
and all that was published while it was live. -/
theorem received_append_queued_of_held {c : Channel α} (hv : c.Valid) {id : SubscriberId}
    (hid : id < c.nextId) {actions : List (Action α)}
    (hheld : ∀ a ∈ actions, a.letsGo id = false) :
    received id c actions ++ (c.run actions).queued id =
      c.queued id ++ published (attended id c actions) := by
  have hleft : leftover id c actions = (c.run actions).queued id := by
    clear hv hid
    induction actions generalizing c with
    | nil => rfl
    | cons a rest ih =>
      have hfirst : a.letsGo id = false := hheld a List.mem_cons_self
      rw [leftover, hfirst, if_neg Bool.false_ne_true, run_cons]
      exact ih fun b hb => hheld b (List.mem_cons_of_mem a hb)
  rw [← hleft, received_append_leftover hv hid]

/-- Whatever lets go of a queue cuts its holder off. -/
theorem Action.letsGo_of_not_cutsOff {id : SubscriberId} {a : Action α}
    (h : a.cutsOff id = false) : a.letsGo id = false := by
  rw [← Bool.not_eq_true]
  intro hgo
  rw [eq_leave_of_letsGo hgo, cutsOff, beq_self_eq_true] at h
  cases h

/-- A receive that finds the end of a queue finds it empty and cut off. -/
theorem Valid.cut_of_receive_ended {c : Channel α} (hv : c.Valid) {id : SubscriberId}
    (h : (c.receive id).1 = .ended) : c.queued id = [] ∧ c.isSubscribed id = false := by
  obtain ⟨hb, -⟩ | ⟨box, item, queue, -, -, hr⟩ | ⟨box, -, -, -, hr⟩ | ⟨box, hb, hq, hs, -⟩ :=
    receive_cases c id
  · -- Whoever has no mailbox is not live.
    refine ⟨queued_of_no_mailbox hb, ?_⟩
    rw [← Bool.not_eq_true, isSubscribed_iff]
    exact fun hm => hv.held_of_live id hm hb
  · rw [hr] at h
    cases h
  · rw [hr] at h
    cases h
  · rw [queued_of_mailbox hb]
    exact ⟨hq, hs⟩

/-- An action that takes a live subscriber out of the set, and does not do so in any case, is a
publication that finds its queue full. -/
theorem Valid.exists_publish_of_cut {c : Channel α} (hv : c.Valid) {id : SubscriberId}
    {a : Action α} (hcuts : a.cutsOff id = false) (hlive : c.isSubscribed id = true)
    (hcut : (c.act a).isSubscribed id = false) :
    ∃ item, a = .publish item ∧ (c.queued id).length = c.capacity := by
  cases a with
  | publish item =>
    refine ⟨item, rfl, ?_⟩
    have hstays := hv.isSubscribed_publish item id
    have hle := hv.length_queued_le id
    have hnot : ¬(c.queued id).length < c.capacity := by
      intro hroom
      rw [Channel.act, hstays.2 ⟨hlive, hroom⟩] at hcut
      cases hcut
    omega
  | close => cases hcuts
  | listen l =>
    -- Nothing else that subscribers do changes the standing of this one.
    cases l with
    | subscribe =>
      have hid := hv.lt_of_live ((isSubscribed_iff c id).1 hlive)
      rw [Channel.act, listen, isSubscribed_subscribe_of_ne c (Nat.ne_of_lt hid), hlive] at hcut
      cases hcut
    | receive j =>
      rw [Channel.act, listen, isSubscribed_receive, hlive] at hcut
      cases hcut
    | unsubscribe j =>
      have hne : id ≠ j := fun he => by
        rw [Action.cutsOff, he, beq_self_eq_true] at hcuts
        cases hcuts
      rw [Channel.act, listen, isSubscribed_unsubscribe, hlive, bne_iff_ne.2 hne] at hcut
      cases hcut
    | leave j =>
      have hne : id ≠ j := fun he => by
        rw [Action.cutsOff, he, beq_self_eq_true] at hcuts
        cases hcuts
      rw [Channel.act, listen, isSubscribed_leave, hlive, bne_iff_ne.2 hne] at hcut
      cases hcut

/-- A subscriber that is cut off in a run in which nobody does so on purpose is cut off by a
publication that finds its queue full. It attends what comes before that. -/
theorem exists_evicting_publish {c : Channel α} (hv : c.Valid) {id : SubscriberId}
    (hlive : c.isSubscribed id = true) {actions : List (Action α)}
    (hcuts : ∀ a ∈ actions, a.cutsOff id = false)
    (hcut : (c.run actions).isSubscribed id = false) :
    ∃ item late, actions = attended id c actions ++ .publish item :: late ∧
      (c.run (attended id c actions)).isSubscribed id = true ∧
      ((c.run (attended id c actions)).queued id).length = c.capacity := by
  induction actions generalizing c with
  | nil =>
    rw [run_nil, hlive] at hcut
    cases hcut
  | cons a rest ih =>
    rw [attended]
    by_cases hs : (c.act a).isSubscribed id = true
    · -- The subscriber attends this action, and is cut off later.
      rw [if_pos hs]
      obtain ⟨item, late, hsplit, hlast, hfull⟩ := ih (hv.act a) hs
        (fun b hb => hcuts b (List.mem_cons_of_mem a hb)) hcut
      rw [capacity_act] at hfull
      refine ⟨item, late, ?_, hlast, hfull⟩
      rw [List.cons_append, ← hsplit]
    · rw [if_neg hs]
      obtain ⟨item, rfl, hfull⟩ := hv.exists_publish_of_cut (hcuts a List.mem_cons_self) hlive
        (Bool.eq_false_iff.2 hs)
      exact ⟨item, rest, rfl, hlive, hfull⟩

/-! ## One subscription -/

/-- What a subscriber has of a run that follows its subscription: it is live in the part `during` of
the run and not in the part `rest`. -/
structure Attendance (id : SubscriberId) (c : Channel α) (during rest : List (Action α)) :
    Prop where
  /-- The subscriber is live up to the last action of `during`, and never again after that. -/
  live_iff : ∀ early late, during ++ rest = early ++ late →
    ((c.run early).isSubscribed id = true ↔ early <+: during)
  /-- What it has received, followed by what is left in its queue, is what was published in
  `during`: in order, without a gap, each item once. -/
  sees : received id c (during ++ rest) ++ leftover id c (during ++ rest) = published during
  /-- Its queue never exceeds the capacity. -/
  bounded : ∀ early late, during ++ rest = early ++ late →
    ((c.run early).queued id).length ≤ c.capacity
  /-- Its id is never given out again. -/
  fresh : ∀ early late, during ++ rest = early ++ late → (c.run early).subscribe.1 ≠ id
  /-- Cutting its id off or letting go of its queue leaves everyone else live, with their queues. -/
  others : ∀ early late, during ++ rest = early ++ late → ∀ j, j ≠ id →
    ((c.run early).unsubscribe id).2.isSubscribed j = (c.run early).isSubscribed j ∧
      ((c.run early).leave id).isSubscribed j = (c.run early).isSubscribed j ∧
      ((c.run early).unsubscribe id).2.queued j = (c.run early).queued j ∧
      ((c.run early).leave id).queued j = (c.run early).queued j
  /-- From any moment at which it is no longer live, it receives only what was queued then. -/
  drains : ∀ early late, during ++ rest = early ++ late →
    (c.run early).isSubscribed id = false →
    received id (c.run early) late ++ leftover id (c.run early) late = (c.run early).queued id

/-- Every subscriber of a valid channel has its part of every run. -/
theorem attendance_of_live {c : Channel α} (hv : c.Valid) {id : SubscriberId}
    (hid : id < c.nextId) (hlive : c.isSubscribed id = true) (hempty : c.queued id = [])
    {during rest : List (Action α)} (hd : attended id c (during ++ rest) = during) :
    Attendance id c during rest where
  live_iff early late h := by
    rw [isSubscribed_run_iff hid hlive early late, ← h, hd]
  sees := by
    rw [received_append_leftover hv hid, hempty, List.nil_append, hd]
  bounded early late _ := by
    have hlen := (hv.run early).length_queued_le id
    rw [capacity_run] at hlen
    exact hlen
  fresh early late _ := by
    have hlt := Nat.lt_of_lt_of_le hid (nextId_le_run c early)
    exact Nat.ne_of_gt hlt
  others early late _ j hj := by
    have hne : (j != id) = true := bne_iff_ne.2 hj
    refine ⟨?_, ?_, queued_congr (mailbox?_unsubscribe _ id j),
      queued_congr (mailbox?_leave_of_ne _ hj)⟩
    · rw [isSubscribed_unsubscribe, hne, Bool.and_true]
    · rw [isSubscribed_leave, hne, Bool.and_true]
  drains early late _ hcut := by
    have hid' := Nat.lt_of_lt_of_le hid (nextId_le_run c early)
    rw [received_append_leftover (hv.run early) hid' late, attended_of_not_live hid' hcut late]
    exact List.append_nil _

/-- In every run of every channel, each subscriber sees the contiguous run of the items published
from its subscription up to the action that took it out of the set of live subscribers, or up to
now. -/
theorem subscriber_sees_contiguous_run (name : String) (requested : Nat)
    (before after : List (Action α)) :
    let c : Channel α := (create name requested).run before
    ∃ during rest, after = during ++ rest ∧
      published (before ++ .listen .subscribe :: after) =
        published before ++ published during ++ published rest ∧
      c.subscribe.2.capacity = clampCapacity requested ∧
      Attendance c.subscribe.1 c.subscribe.2 during rest := by
  intro c
  have hv : c.Valid := (valid_create name requested).run before
  -- The subscriber attends an initial part of what follows.
  obtain ⟨rest, hrest⟩ := attended_initial c.nextId c.subscribe.2 after
  have hpublished : published (before ++ .listen .subscribe :: after) =
      published before ++ published (attended c.nextId c.subscribe.2 after) ++ published rest := by
    rw [published_append, published_cons, List.append_assoc, ← published_append, hrest]
    rfl
  have hcapacity : c.subscribe.2.capacity = clampCapacity requested :=
    capacity_run (create name requested) before
  refine ⟨attended c.nextId c.subscribe.2 after, rest, hrest.symm, hpublished, hcapacity, ?_⟩
  apply attendance_of_live hv.subscribe (Nat.lt_succ_self _) (isSubscribed_subscribe c)
    (queued_subscribe_self hv)
  rw [hrest]

/-- A subscriber that does not keep up is cut off by the item that its queue has no room for, and
still receives what it had. -/
example :
    received 1 ((create "letters" 1).subscribe.2)
      [.publish 'a', .publish 'b', .listen (.receive 1), .publish 'c', .listen (.receive 1)] =
    ['a'] := by decide

end LiveMap.Channel
