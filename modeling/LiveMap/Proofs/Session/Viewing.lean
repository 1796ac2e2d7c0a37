import LiveMap.Proofs.Session.Turn

/-!
# A view of the shared registry and the hub it is on

A view of the shared registry has two queues, of operations and of commands. Others use the hub
while it takes its turns; they do whatever they like, but nobody else asks the view's queues for
items or lets go of them.

All that a turn can be to such a view is said once, in `Sound.step_cases`. It leaves what the view
holds alone, or it is a tick after which the session is still open, or it is a tick that closes the
session, or it closes the session from outside. What holds of any view (`Tended`) is that the hub is
valid, the session intact, and that a mailbox exists for whatever the view holds. A tended view of
the shared registry is sound (`Sound`).
-/

namespace LiveMap

open Channel (asks quits)

variable {ρ : Type}

/-! ## A view and its hub -/

/-- A view, with the hub that it is on. -/
structure Viewing (ρ : Type) where
  /-- The view. -/
  watch : Watch ρ
  /-- The hub. -/
  hub : Hub

/-- What happens next. -/
inductive Viewing.Turn where
  /-- The view gets its session. -/
  | mount
  /-- Something happens to the session. -/
  | act (t : Session.Turn)
  /-- Somebody else does something. -/
  | other (a : Hub.Action)

/-- Whether an action asks a queue of the view for items or lets go of it. Nobody else does that. -/
def Watch.reserves (w : Watch ρ) : Hub.Action → Bool
  | .listenOps (.receive id) | .listenOps (.leave id) => w.subscriber? .ops = some id
  | .listenCommands (.receive id) | .listenCommands (.leave id) => w.subscriber? .commands = some id
  | _ => false

/-- Whether a view shows the shared registry, as far as there is still a source to tell. -/
def Watch.IsShared : Watch ρ → Prop
  | absent => False
  | attached source => ∃ id, source = .shared id
  | mounted s => ∀ source, s.source = some source → ∃ id, source = .shared id

/-- An open session over the shared registry has a subscription for its source. -/
theorem Session.Intact.exists_shared {s : Session ρ} (hi : s.Intact)
    (hshared : (Watch.mounted s).IsShared) (hopen : s.phase ≠ .closed) :
    ∃ id, s.source = some (.shared id) := by
  obtain ⟨own, hown⟩ := Option.ne_none_iff_exists'.1 fun hn => hopen (hi.source.1 hn)
  obtain ⟨id, rfl⟩ := hshared own hown
  exact ⟨id, hown⟩

/-- No view holds a subscription to the events. -/
theorem Watch.subscriber?_events (w : Watch ρ) : w.subscriber? .events = none := by
  cases w <;> rfl

/-- By nothing no queue is asked, and none let go of. -/
theorem Lane.nothing_done (l : Lane) (id : SubscriberId) :
    .listen (.receive id) ∉ ([] : List (Channel.Action l.Item)) ∧
      ∀ b ∈ ([] : List (Channel.Action l.Item)), b.letsGo id = false :=
  ⟨List.not_mem_nil, fun _ hb => absurd hb List.not_mem_nil⟩

/-- What is not reserved asks no queue of the view for items and lets go of none. -/
theorem Watch.on_of_not_reserved {w : Watch ρ} {a : Hub.Action} (hfree : w.reserves a = false)
    {l : Lane} {id : SubscriberId} (hid : w.subscriber? l = some id) (hub : Hub) :
    .listen (.receive id) ∉ hub.on a l ∧ ∀ b ∈ hub.on a l, b.letsGo id = false := by
  -- A publication asks nobody's queue, and a listener is free to do what is not about this id.
  have hpublishes : a.publishes = true →
      .listen (.receive id) ∉ hub.on a l ∧ ∀ b ∈ hub.on a l, b.letsGo id = false := by
    intro ha
    have hall : ∀ b ∈ hub.on a l, b.isPublication = true := Hub.isPublication_of_mem_on ha
    refine ⟨fun hm => ?_, fun b hb => ?_⟩
    · cases hall _ hm
    · rw [← Bool.not_eq_true]
      intro hgo
      have hb' := hall b hb
      rw [Channel.Action.eq_leave_of_letsGo hgo] at hb'
      cases hb'
  have hother : ∀ k : Channel.Listening, k ≠ .receive id → k ≠ .leave id →
      .listen (.receive id) ∉ [(.listen k : Channel.Action l.Item)] ∧
        ∀ b ∈ [(.listen k : Channel.Action l.Item)], b.letsGo id = false := by
    intro k hreceive hleave
    refine ⟨fun hm => ?_, fun b hb => ?_⟩
    · cases List.mem_singleton.1 hm
      exact hreceive rfl
    · rw [List.mem_singleton.1 hb, ← Bool.not_eq_true]
      intro hgo
      cases Channel.Action.eq_leave_of_letsGo hgo
      exact hleave rfl
  cases a with
  | mutate mutation => exact hpublishes rfl
  | issue command => exact hpublishes rfl
  | interact interaction => exact hpublishes rfl
  | listenEvents k =>
    cases l with
    | ops | commands => exact Lane.nothing_done _ id
    | events => cases w.subscriber?_events.symm.trans hid
  | listenOps k =>
    cases l with
    | commands | events => exact Lane.nothing_done _ id
    | ops =>
      refine hother k ?_ ?_ <;> rintro rfl
      · exact of_decide_eq_false hfree hid
      · exact of_decide_eq_false hfree hid
  | listenCommands k =>
    cases l with
    | ops | events => exact Lane.nothing_done _ id
    | commands =>
      refine hother k ?_ ?_ <;> rintro rfl
      · exact of_decide_eq_false hfree hid
      · exact of_decide_eq_false hfree hid

namespace Viewing

/-- A view that has just subscribed to the shared registry. -/
def attach (hub : Hub) : Viewing ρ :=
  ⟨.attached (Source.attach hub).1, (Source.attach hub : Source ρ × Hub).2⟩

/-- The subscriptions that the view holds. -/
def subscriber? (σ : Viewing ρ) (l : Lane) : Option SubscriberId := σ.watch.subscriber? l

/-- Whether the session is closed. -/
def isClosed (σ : Viewing ρ) : Bool :=
  match σ.watch with
  | .mounted s => s.phase = .closed
  | .absent | .attached _ => false

/-- Why the session was closed, once it is. -/
def closeReason? (σ : Viewing ρ) : Option CloseReason :=
  match σ.watch with
  | .mounted s => s.closeReason
  | .absent | .attached _ => none

/-- Whether a turn is a tick that takes effect. -/
def ticks (σ : Viewing ρ) : Turn → Bool
  | .act .tick =>
    match σ.watch with
    | .mounted s => s.isConnected
    | .absent | .attached _ => false
  | .mount | .act _ | .other _ => false

/-- The first item that is queued for the view on a lane. -/
def next? (σ : Viewing ρ) (l : Lane) : Option l.Item :=
  (σ.subscriber? l).bind fun id => ((σ.hub.lane l).queued id).head?

/-- Whether the view holds a subscription on a lane whose queue is empty and cut off. -/
def isExhausted (σ : Viewing ρ) (l : Lane) : Bool :=
  (σ.subscriber? l).any (σ.hub.lane l).isExhausted

/-- Whether one of the two queues is empty and cut off. -/
def isCutOff (σ : Viewing ρ) : Bool := σ.isExhausted .ops || σ.isExhausted .commands

/-- What a tick shows: the first operation, then the first command. -/
def backlogHead (σ : Viewing ρ) : List ViewDelta :=
  ((σ.next? .ops).map .ofOp).toList ++ ((σ.next? .commands).map .command).toList

/-- How many ticks it takes to close the session, once its subscription on a lane is cut off: one
for each item of the queue, and one that finds the end. -/
def remaining (σ : Viewing ρ) (l : Lane) : Nat :=
  match σ.subscriber? l with
  | some id => ((σ.hub.lane l).queued id).length + 1
  | none => 0

/-! ## The invariant -/

/-- What holds of any view at any moment. -/
structure Tended (σ : Viewing ρ) : Prop where
  /-- The hub is valid. -/
  hub : σ.hub.Valid
  /-- The session is intact. -/
  intact : σ.watch.Intact
  /-- There is a mailbox for whatever the view holds. -/
  held : ∀ l id, σ.subscriber? l = some id → (σ.hub.lane l).mailbox? id ≠ none

/-- What holds of a view of the shared registry at any moment. -/
structure Sound (σ : Viewing ρ) : Prop extends Tended σ where
  /-- The view shows the shared registry. -/
  shared : σ.watch.IsShared

/-- What holds of a view holds of its session. -/
theorem Sound.of_mounted {σ : Viewing ρ} (h : σ.Sound) {s : Session ρ} (hs : σ.watch = .mounted s) :
    s.Intact ∧ (Watch.mounted s).IsShared ∧ σ.subscriber? = s.subscriber? := by
  obtain ⟨watch, hub⟩ := σ
  have hwatch : watch = .mounted s := hs
  subst hwatch
  exact ⟨h.intact, h.shared, rfl⟩

/-- What the view holds has been given out. -/
theorem Sound.lt_nextId {σ : Viewing ρ} (h : σ.Sound) {l : Lane} {id : SubscriberId}
    (hid : σ.subscriber? l = some id) : id < (σ.hub.lane l).nextId :=
  (h.hub.lane l).lt_nextId id (h.held l id hid)

/-- A view that has just subscribed is sound. -/
theorem sound_attach {hub : Hub} (hv : hub.Valid) : (attach hub : Viewing ρ).Sound where
  hub := hv.act (.listenOps .subscribe)
  intact := trivial
  shared := ⟨_, rfl⟩
  held l id hid := by
    cases l with
    | commands | events => cases hid
    | ops =>
      cases hid
      show hub.ops.subscribe.2.mailbox? hub.ops.nextId ≠ none
      rw [Channel.mailbox?_subscribe hv.ops, if_pos rfl]
      exact Option.some_ne_none _

/-- A closed view holds nothing. -/
theorem Sound.subscriber?_of_closed {σ : Viewing ρ} (h : σ.Sound) (hc : σ.isClosed = true)
    (l : Lane) : σ.subscriber? l = none := by
  obtain ⟨watch, hub⟩ := σ
  cases watch with
  | absent | attached source => cases hc
  | mounted s => exact Session.Intact.subscriber?_of_closed h.intact (of_decide_eq_true hc) l

/-- A tick takes effect only while the view is open. -/
theorem isClosed_of_ticks {σ : Viewing ρ} {t : Turn} (ht : σ.ticks t = true) :
    σ.isClosed = false := by
  obtain ⟨watch, hub⟩ := σ
  cases t with
  | mount | other a => cases ht
  | act t =>
    cases t with
    | connect | forward event | close reason => cases ht
    | tick =>
      cases watch with
      | absent | attached source => cases ht
      | mounted s => exact decide_eq_false (Session.phase_ne_closed_of_isConnected ht)

/-- An exhausted lane is one on which the view holds something that is cut off, with an empty queue.
-/
theorem exists_of_isExhausted {σ : Viewing ρ} {l : Lane} (h : σ.isExhausted l = true) :
    ∃ id, σ.subscriber? l = some id ∧ (σ.hub.lane l).queued id = [] ∧
      (σ.hub.lane l).isSubscribed id = false := by
  obtain ⟨id, hid, hex⟩ := (Option.any_eq_true _ _).1 h
  rw [Channel.isExhausted, Bool.and_eq_true, List.isEmpty_iff, Bool.not_eq_true'] at hex
  exact ⟨id, hid, hex.1, hex.2⟩

/-- A view that is not cut off has items left in any queue that is. -/
theorem queued_ne_nil_of_not_isCutOff {σ : Viewing ρ} (h : σ.isCutOff = false) {l : Lane}
    {id : SubscriberId} (hid : σ.subscriber? l = some id)
    (hcut : (σ.hub.lane l).isSubscribed id = false) : (σ.hub.lane l).queued id ≠ [] := by
  intro hempty
  have hexhausted : σ.isExhausted l = true := by
    rw [isExhausted, hid]
    show (σ.hub.lane l).isExhausted id = true
    rw [Channel.isExhausted, hempty, hcut]
    rfl
  rw [isCutOff, Bool.or_eq_false_iff] at h
  cases l with
  | ops => cases h.1.symm.trans hexhausted
  | commands => cases h.2.symm.trans hexhausted
  | events => cases (Watch.subscriber?_events _).symm.trans hid

/-- One tick remains for an exhausted lane. -/
theorem remaining_of_isExhausted {σ : Viewing ρ} {l : Lane} (h : σ.isExhausted l = true) :
    σ.remaining l = 1 := by
  obtain ⟨id, hid, hempty, -⟩ := exists_of_isExhausted h
  rw [remaining, hid]
  show ((σ.hub.lane l).queued id).length + 1 = 1
  rw [hempty]
  rfl

/-- A view that holds something is open. -/
theorem Sound.isOpen_of_held {σ : Viewing ρ} (h : σ.Sound) {l : Lane} {id : SubscriberId}
    (hid : σ.subscriber? l = some id) : σ.isClosed = false := by
  refine Bool.eq_false_iff.2 fun hc => ?_
  rw [h.subscriber?_of_closed hc] at hid
  cases hid

/-! ## Turns -/

variable [FleetDraws ρ]

/-- The changes to show and the view after a turn of its own. -/
def own (σ : Viewing ρ) (t : Watch.Turn ρ) : List ViewDelta × Viewing ρ :=
  let (deltas, watch, hub) := σ.watch.turn σ.hub t
  (deltas, ⟨watch, hub⟩)

/-- The changes to show and the view after a turn. What only the view does is nobody else's turn. -/
def step (σ : Viewing ρ) : Turn → List ViewDelta × Viewing ρ
  | .mount => σ.own .mount
  | .act t => σ.own (.act t)
  | .other a => ([], if σ.watch.reserves a then σ else { σ with hub := σ.hub.act a })

/-- What a turn does to the channel of a lane. -/
def does (σ : Viewing ρ) (l : Lane) : Turn → List (Channel.Action l.Item)
  | .mount => σ.watch.does σ.hub .mount l
  | .act t => σ.watch.does σ.hub (.act t) l
  | .other a => if σ.watch.reserves a then [] else σ.hub.on a l

/-- What somebody else does leaves the view itself alone. -/
theorem watch_step_other (σ : Viewing ρ) (a : Hub.Action) :
    (σ.step (.other a)).2.watch = σ.watch := by
  show (if σ.watch.reserves a then σ else { σ with hub := σ.hub.act a }).watch = σ.watch
  split <;> rfl

/-- The view after some turns. -/
def run (σ : Viewing ρ) (turns : List Turn) : Viewing ρ := turns.foldl (fun σ t => (σ.step t).2) σ

/-- All that the view shows in some turns, in order. -/
def shown : Viewing ρ → List Turn → List ViewDelta
  | _, [] => []
  | σ, t :: rest => (σ.step t).1 ++ shown (σ.step t).2 rest

/-- What some turns do to the channel of a lane. -/
def doings (l : Lane) : Viewing ρ → List Turn → List (Channel.Action l.Item)
  | _, [] => []
  | σ, t :: rest => σ.does l t ++ doings l (σ.step t).2 rest

/-- How many of some turns are ticks that take effect. -/
def connectedTicks : Viewing ρ → List Turn → Nat
  | _, [] => 0
  | σ, t :: rest => (σ.ticks t).toNat + connectedTicks (σ.step t).2 rest

@[simp] theorem run_nil (σ : Viewing ρ) : σ.run [] = σ := rfl

@[simp] theorem run_cons (σ : Viewing ρ) (t : Turn) (rest : List Turn) :
    σ.run (t :: rest) = (σ.step t).2.run rest := rfl

theorem run_append (σ : Viewing ρ) (first second : List Turn) :
    σ.run (first ++ second) = (σ.run first).run second := List.foldl_append

theorem shown_append (σ : Viewing ρ) (first second : List Turn) :
    σ.shown (first ++ second) = σ.shown first ++ (σ.run first).shown second := by
  induction first generalizing σ with
  | nil => rfl
  | cons t rest ih => rw [List.cons_append, shown, ih, shown, List.append_assoc, run_cons]

end Viewing

/-- A tick has a result if the source has one. -/
theorem Session.exists_tick_of_poll [FleetDraws ρ] {s : Session ρ} {hub : Hub}
    (hpoll : ∃ r, s.ticked.pollSource hub = .ok r) : ∃ r, s.tick hub = .ok r := by
  obtain ⟨⟨op, ended, s₁, hub₁⟩, hpoll⟩ := hpoll
  unfold tick
  split
  · show ∃ r, (s.ticked.pollSource hub >>= _) = Except.ok r
    rw [hpoll]
    by_cases hend : (ended || (s₁.pollCommands hub₁).2.1) = true
    · exact ⟨_, if_pos hend⟩
    · exact ⟨_, if_neg hend⟩
  · exact ⟨_, rfl⟩

/-- A tick of a session over the shared registry never fails. -/
theorem Session.exists_tick_eq_ok [FleetDraws ρ] {s : Session ρ}
    (hshared : (Watch.mounted s).IsShared) (hub : Hub) : ∃ r, s.tick hub = .ok r := by
  refine exists_tick_of_poll ?_
  unfold pollSource
  cases hsource : s.ticked.source with
  | none => exact ⟨_, rfl⟩
  | some source =>
    obtain ⟨id, rfl⟩ := hshared source hsource
    exact ⟨_, rfl⟩

/-- A session over the shared registry stays one. -/
theorem Session.Intact.isShared_turn [FleetDraws ρ] {s s' : Session ρ} {hub hub' : Hub}
    {t : Session.Turn} {deltas : List ViewDelta} (hi : s.Intact)
    (hshared : (Watch.mounted s).IsShared) (h : s.turn hub t = .ok (deltas, s', hub')) :
    (Watch.mounted s').IsShared := by
  have hclosed : ∀ (s : Session ρ) (reason : CloseReason),
      (Watch.mounted (s.closed reason)).IsShared := fun _ _ source hsource => by cases hsource
  cases t with
  | forward event =>
    cases h
    exact hshared
  | connect =>
    cases h
    intro source hsource
    rw [source_connect] at hsource
    exact hshared source hsource
  | close reason =>
    by_cases hc : s.phase = .closed
    · rw [turn, close, if_pos hc] at h
      cases h
      exact hshared
    · rw [turn, close_eq hc] at h
      cases h
      exact hclosed s reason
  | tick =>
    cases hc : s.isConnected with
    | false =>
      rw [turn, tick_of_not_connected hc] at h
      cases h
      exact hshared
    | true =>
      obtain ⟨op, source, -, -, hkept, ⟨-, rfl, -⟩ | ⟨-, rfl, -⟩⟩ := hi.tick_cases hc h
      · -- The source still holds the same subscription, so it is a subscription.
        obtain ⟨id, hid⟩ := hi.exists_shared hshared (phase_ne_closed_of_isConnected hc)
        rw [ops?, hid] at hkept
        intro source' hsource'
        cases hsource'
        cases source with
        | shared id => exact ⟨id, rfl⟩
        | simulated fleet => cases hkept
      · exact hclosed s.ticked .evicted

namespace Viewing

variable [FleetDraws ρ]

/-- A session over the shared registry never fails. -/
theorem Sound.turn_mounted {σ : Viewing ρ} (h : σ.Sound) {s : Session ρ}
    (hs : σ.watch = .mounted s) (t : Session.Turn) :
    ∃ s', s.turn σ.hub t = .ok ((σ.step (.act t)).1, s', (σ.step (.act t)).2.hub) ∧
      (σ.step (.act t)).2.watch = .mounted s' := by
  obtain ⟨-, hshared, -⟩ := h.of_mounted hs
  obtain ⟨⟨deltas, s', hub'⟩, hr⟩ : ∃ r, s.turn σ.hub t = .ok r := by
    cases t with
    | tick => exact Session.exists_tick_eq_ok hshared σ.hub
    | connect | forward event | close reason => exact ⟨_, rfl⟩
  have hstep : σ.step (.act t) = (deltas, ⟨.mounted s', hub'⟩) := by
    rw [step, own, hs, Watch.turn, hr]
  exact ⟨s', by rw [hr, hstep], by rw [hstep]⟩

/-- A turn does to the channel of each lane what it says. -/
theorem Sound.lane_step {σ : Viewing ρ} (h : σ.Sound) (t : Turn) (l : Lane) :
    (σ.step t).2.hub.lane l = (σ.hub.lane l).run (σ.does l t) := by
  cases t with
  | mount => exact (h.intact.moves_turn σ.hub .mount).2.lane l
  | act t => exact (h.intact.moves_turn σ.hub (.act t)).2.lane l
  | other a =>
    show (if σ.watch.reserves a then σ else { σ with hub := σ.hub.act a }).hub.lane l = _
    rw [does]
    split
    · rfl
    · exact σ.hub.lane_act a l

/-- Every turn keeps the session intact and the hub valid, whatever the view holds. -/
theorem valid_step {σ : Viewing ρ} (hi : σ.watch.Intact) (hv : σ.hub.Valid) (t : Turn) :
    (σ.step t).2.watch.Intact ∧ (σ.step t).2.hub.Valid := by
  have hown : ∀ t : Watch.Turn ρ, (σ.own t).2.watch.Intact ∧ (σ.own t).2.hub.Valid := by
    intro t
    obtain ⟨hintact, hmoves⟩ := hi.moves_turn σ.hub t
    exact ⟨hintact, hmoves.valid hv⟩
  cases t with
  | mount => exact hown .mount
  | act t => exact hown (.act t)
  | other a =>
    show (if σ.watch.reserves a then σ else { σ with hub := σ.hub.act a }).watch.Intact ∧
      (if σ.watch.reserves a then σ else { σ with hub := σ.hub.act a }).hub.Valid
    split
    · exact ⟨hi, hv⟩
    · exact ⟨hi, hv.act a⟩

/-- A turn of the view's own leaves it a mailbox for whatever it holds. -/
theorem Tended.held_own {σ : Viewing ρ} (h : σ.Tended) (t : Watch.Turn ρ) (l : Lane)
    (id : SubscriberId) (hid : (σ.own t).2.subscriber? l = some id) :
    ((σ.own t).2.hub.lane l).mailbox? id ≠ none := by
  obtain ⟨-, hmoves⟩ := h.intact.moves_turn σ.hub t
  have hmove := (hmoves.move l).mailbox?_ne_none_iff (h.hub.lane l) (h.held l) id
  rw [← hmoves.lane] at hmove
  exact hmove.2 (Or.inr hid)

/-- Every turn keeps a view tended. -/
theorem Tended.step {σ : Viewing ρ} (h : σ.Tended) (t : Turn) : (σ.step t).2.Tended := by
  obtain ⟨hintact, hvalid⟩ := valid_step h.intact h.hub t
  refine ⟨hvalid, hintact, ?_⟩
  cases t with
  | mount => exact h.held_own .mount
  | act t => exact h.held_own (.act t)
  | other a =>
    show ∀ l id, (if σ.watch.reserves a then σ else { σ with hub := σ.hub.act a }).subscriber? l =
      some id → (Hub.lane (if σ.watch.reserves a then σ
        else { σ with hub := σ.hub.act a }).hub l).mailbox? id ≠ none
    cases hfree : σ.watch.reserves a with
    | true => exact h.held
    | false =>
      intro l id hid
      show ((σ.hub.act a).lane l).mailbox? id ≠ none
      rw [Hub.lane_act]
      exact Channel.mailbox?_run_ne_none (h.hub.lane l) (h.held l id hid)
        (Watch.on_of_not_reserved hfree hid σ.hub).2

/-- Every turn keeps a view sound. -/
theorem Sound.step {σ : Viewing ρ} (h : σ.Sound) (t : Turn) : (σ.step t).2.Sound := by
  refine ⟨h.toTended.step t, ?_⟩
  cases t with
  | mount =>
    obtain ⟨watch, hub⟩ := σ
    cases watch with
    | absent => exact h.shared.elim
    | mounted s => exact h.shared
    | attached source =>
      -- The session gets the source that the view has had.
      intro source' hsource'
      cases hsource'
      exact h.shared
  | act t =>
    cases hs : σ.watch with
    | absent | attached source =>
      have hsame : (σ.step (.act t)).2.watch = σ.watch := by
        rw [Viewing.step, Viewing.own, hs]
        rfl
      rw [hsame]
      exact h.shared
    | mounted s =>
      obtain ⟨hi, hshared, -⟩ := h.of_mounted hs
      obtain ⟨s', hr, hwatch⟩ := h.turn_mounted hs t
      rw [hwatch]
      exact hi.isShared_turn hshared hr
  | other a =>
    rw [watch_step_other]
    exact h.shared

/-! ## What a turn can be to a view -/

/-- What a turn can be to a view of the shared registry. -/
inductive Happens (σ : Viewing ρ) (t : Turn) : Prop where
  /-- It shows nothing, and leaves what the view holds alone. -/
  | spares (ticks : σ.ticks t = false) (shows : (σ.step t).1 = [])
    (closed : (σ.step t).2.isClosed = σ.isClosed)
    (reason : (σ.step t).2.closeReason? = σ.closeReason?)
    (kept : ∀ l id, σ.subscriber? l = some id → (σ.step t).2.subscriber? l = some id ∧
      .listen (.receive id) ∉ σ.does l t ∧ ∀ b ∈ σ.does l t, b.letsGo id = false)
  /-- It is a tick, after which the session is still open. -/
  | stays (ticks : σ.ticks t = true) (shows : (σ.step t).1 = σ.backlogHead)
    (cutOff : σ.isCutOff = false) (closed : (σ.step t).2.isClosed = false)
    (kept : ∀ l, (σ.step t).2.subscriber? l = σ.subscriber? l)
    (does : ∀ l, σ.does l t = asks (σ.subscriber? l))
  /-- It is a tick that closes the session. -/
  | ends (ticks : σ.ticks t = true) (shows : (σ.step t).1 = σ.backlogHead)
    (cutOff : σ.isCutOff = true) (closed : (σ.step t).2.isClosed = true)
    (reason : (σ.step t).2.closeReason? = some .evicted)
    (does : ∀ l, σ.does l t = asks (σ.subscriber? l) ++ quits (σ.subscriber? l))
  /-- It closes the session from outside. -/
  | closes (reason : CloseReason) (turn : t = .act (.close reason)) (shows : (σ.step t).1 = [])
    (isOpen : σ.isClosed = false)
    (closed : (σ.step t).2.isClosed = true)
    (because : (σ.step t).2.closeReason? = some reason)
    (does : ∀ l, σ.does l t = quits (σ.subscriber? l))

/-- A turn that changes nothing leaves what the view holds alone. -/
theorem Happens.of_nothing {σ : Viewing ρ} {t : Turn} (ticks : σ.ticks t = false)
    (hstep : σ.step t = ([], σ)) (hdoes : ∀ l, σ.does l t = []) : σ.Happens t := by
  refine .spares ticks ?_ ?_ ?_ fun l id hid => ?_ <;> rw [hstep]
  rw [hdoes]
  exact ⟨hid, Lane.nothing_done l id⟩

/-- Mounting leaves what the view holds alone. -/
theorem Sound.happens_mount {σ : Viewing ρ} (h : σ.Sound) : σ.Happens .mount := by
  obtain ⟨watch, hub⟩ := σ
  cases watch with
  | absent => exact h.shared.elim
  | mounted s => exact .of_nothing rfl rfl fun l => rfl
  | attached source =>
    refine .spares rfl rfl rfl rfl fun l id hid => ?_
    cases l with
    | ops => exact ⟨hid, Lane.nothing_done _ id⟩
    | commands | events => cases hid

/-- What somebody else does leaves what the view holds alone. -/
theorem happens_other {σ : Viewing ρ} (a : Hub.Action) : σ.Happens (.other a) := by
  have hwatch := σ.watch_step_other a
  refine .spares rfl rfl ?_ ?_ fun l id hid => ?_
  · rw [isClosed, hwatch, isClosed]
  · rw [closeReason?, hwatch, closeReason?]
  · refine ⟨by rw [subscriber?, hwatch]; exact hid, ?_⟩
    rw [does]
    cases hfree : σ.watch.reserves a with
    | true => exact Lane.nothing_done l id
    | false => exact Watch.on_of_not_reserved hfree hid σ.hub

/-- A tick that takes effect shows the first items of both queues, and closes the session if one of
the queues is empty and cut off. -/
theorem Sound.happens_tick {σ : Viewing ρ} (h : σ.Sound) (ht : σ.ticks (.act .tick) = true) :
    σ.Happens (.act .tick) := by
  cases hs : σ.watch with
  | absent | attached source =>
    rw [ticks, hs] at ht
    cases ht
  | mounted s =>
    have hc : s.isConnected = true := by
      rw [ticks, hs] at ht
      exact ht
    obtain ⟨hi, hshared, hsub⟩ := h.of_mounted hs
    obtain ⟨s', hr, hwatch⟩ := h.turn_mounted hs .tick
    obtain ⟨op, source, hop, hdeltas, hkept, hleft⟩ := hi.tick_cases hc hr
    -- The session is open and its source is shared, so the operation comes from its queue.
    have hnext : op = σ.next? .ops := by
      obtain ⟨id, hsource⟩ := hi.exists_shared hshared (Session.phase_ne_closed_of_isConnected hc)
      have hid : s.subscriber? .ops = some id := by
        rw [Session.subscriber?, Session.ops?, hsource]
        rfl
      rw [hop id hid, next?, hsub, hid]
      rfl
    have hshows : (σ.step (.act .tick)).1 = σ.backlogHead := by
      rw [hdeltas, hnext, backlogHead, next?, next?, hsub]
      rfl
    have hcut : s.findsEnd σ.hub = σ.isCutOff := by
      rw [Session.findsEnd_eq h.hub fun l id hid => h.held l id (by rw [hsub]; exact hid),
        isCutOff, isExhausted, isExhausted, hsub]
      rfl
    have hdoes : ∀ l, σ.does l (.act .tick) = s.does s' .tick l := by
      intro l
      rw [does, hs, Watch.does, hr]
    obtain ⟨hfound, hs', -⟩ | ⟨hfound, hs', -⟩ := hleft
    all_goals rw [hcut] at hfound
    · refine .stays ht hshows hfound ?_ (fun l => ?_) fun l => ?_
      · rw [isClosed, hwatch, hs']
        rfl
      · rw [subscriber?, hwatch, hs', hsub]
        cases l with
        | ops => exact hkept
        | commands | events => rfl
      · rw [hdoes, hsub, hs', Session.does, hc, if_pos rfl]
        exact if_neg SessionPhase.noConfusion
    · refine .ends ht hshows hfound ?_ ?_ fun l => ?_
      · rw [isClosed, hwatch, hs']
        rfl
      · rw [closeReason?, hwatch, hs']
        rfl
      · rw [hdoes, hsub, hs', Session.does, hc, if_pos rfl]
        exact if_pos rfl

/-- Establishing the transport leaves what the view holds alone. -/
theorem happens_connect (s : Session ρ) (hub : Hub) :
    (⟨.mounted s, hub⟩ : Viewing ρ).Happens (.act .connect) := by
  have hsame : s.connect.subscriber? = s.subscriber? ∧ s.connect.closeReason = s.closeReason ∧
      (s.connect.phase = .closed) = (s.phase = .closed) := by
    unfold Session.connect
    split
    · next hm => exact ⟨rfl, rfl, by simp [hm]⟩
    · exact ⟨rfl, rfl, rfl⟩
  obtain ⟨hsub, hreason, hphase⟩ := hsame
  refine .spares rfl rfl ?_ hreason fun l id hid => ⟨?_, Lane.nothing_done l id⟩
  · show decide (s.connect.phase = .closed) = decide (s.phase = .closed)
    simp only [hphase]
  · exact (congrFun hsub l).trans hid

/-- Closing closes an open session from outside. -/
theorem happens_close {s : Session ρ} (hi : s.Intact) (hub : Hub) (reason : CloseReason) :
    (⟨.mounted s, hub⟩ : Viewing ρ).Happens (.act (.close reason)) := by
  by_cases hclosed : s.phase = .closed
  · have hstep : (⟨.mounted s, hub⟩ : Viewing ρ).step (.act (.close reason)) =
        ([], ⟨.mounted s, hub⟩) := by
      rw [step, own, Watch.turn, Session.turn, Session.close, if_pos hclosed]
    have hdoes : ∀ l, (⟨.mounted s, hub⟩ : Viewing ρ).does l (.act (.close reason)) = [] := by
      intro l
      show quits (s.subscriber? l) = []
      rw [hi.subscriber?_of_closed hclosed]
      rfl
    exact .of_nothing rfl hstep hdoes
  · have hstep : (⟨.mounted s, hub⟩ : Viewing ρ).step (.act (.close reason)) =
        ([], ⟨.mounted (s.closed reason), s.released hub⟩) := by
      rw [step, own, Watch.turn, Session.turn, Session.close_eq hclosed]
    refine .closes reason rfl ?_ ?_ ?_ ?_ fun l => rfl
    · rw [hstep]
    · exact decide_eq_false hclosed
    · rw [hstep]
      rfl
    · rw [hstep]
      rfl

/-- A tick of a session that is not connected does nothing. -/
theorem step_of_not_connected {s : Session ρ} (hc : s.isConnected = false) (hub : Hub) :
    (⟨.mounted s, hub⟩ : Viewing ρ).step (.act .tick) = ([], ⟨.mounted s, hub⟩) := by
  have hturn : s.turn hub .tick = .ok ([], s, hub) := Session.tick_of_not_connected hc hub
  rw [step, own, Watch.turn, hturn]

/-- A tick that takes no effect leaves everything alone. -/
theorem happens_idle {σ : Viewing ρ} (ht : σ.ticks (.act .tick) = false) :
    σ.Happens (.act .tick) := by
  obtain ⟨watch, hub⟩ := σ
  cases watch with
  | absent | attached source => exact .of_nothing rfl rfl fun l => rfl
  | mounted s =>
    have hc : s.isConnected = false := ht
    have hturn : s.turn hub .tick = .ok ([], s, hub) := Session.tick_of_not_connected hc hub
    refine .of_nothing ht (step_of_not_connected hc hub) fun l => ?_
    rw [does, Watch.does, hturn]
    show (if s.isConnected = true then _ else []) = []
    rw [hc]
    rfl

/-- Whatever happens to the session. -/
theorem Sound.happens_act {σ : Viewing ρ} (h : σ.Sound) (t : Session.Turn) :
    σ.Happens (.act t) := by
  obtain ⟨watch, hub⟩ := σ
  cases watch with
  | absent => exact h.shared.elim
  | attached source =>
    cases t with
    | connect | tick | forward event | close reason => exact .of_nothing rfl rfl fun l => rfl
  | mounted s =>
    cases t with
    | connect => exact happens_connect s hub
    | close reason => exact happens_close h.intact hub reason
    | tick =>
      cases ht : (⟨.mounted s, hub⟩ : Viewing ρ).ticks (.act .tick) with
      | false => exact happens_idle ht
      | true => exact h.happens_tick ht
    | forward event =>
      -- An event is published, on a lane on which the view holds nothing.
      refine .spares rfl rfl rfl rfl fun l id hid => ⟨hid, ?_⟩
      cases l with
      | events => cases hid
      | ops | commands => exact Lane.nothing_done _ id

/-- Every turn is one of these to the view. -/
theorem Sound.step_cases {σ : Viewing ρ} (h : σ.Sound) (t : Turn) : σ.Happens t := by
  cases t with
  | mount => exact h.happens_mount
  | act t => exact h.happens_act t
  | other a => exact happens_other a

end Viewing

end LiveMap
