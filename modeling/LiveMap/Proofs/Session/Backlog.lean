import LiveMap.Proofs.Session.Viewing

/-!
# A view shows its backlog, and closes when it is cut off and has none left

Each tick of a view takes one item of each of its queues and shows them. Either queue can be cut
off, which the view does not notice before it asks an empty queue.

The proof follows one lane at a time. On a lane the view shows what its subscription receives there
(`Sound.filter_shown`), so that the laws of the channel say what it has shown. Once a subscription
is cut off, each tick makes its queue shorter, and the tick after the last item closes the session:
`remaining` counts the ticks until then.

Main statement: `view_shows_its_backlog`, for whatever happened before the view subscribed, and
whatever happens then.
-/

namespace LiveMap

open Channel (asks quits published received attended evictions)

variable {ρ : Type}

/-! ## What is shown of a lane -/

/-- Whether a change carries out a command. All others change markers. -/
def ViewDelta.isCommand : ViewDelta → Bool
  | command _ => true
  | addMarker .. | moveMarker .. | removeMarker _ => false

/-- The change by which a view shows an item of a lane. It shows no events. -/
def Lane.delta? : (l : Lane) → l.Item → Option ViewDelta
  | ops, op => some (.ofOp op)
  | commands, command => some (.command command)
  | events, _ => none

/-- Whether a change is one by which a view shows an item of a lane. -/
def Lane.shows : Lane → ViewDelta → Bool
  | ops, d => !d.isCommand
  | commands, d => d.isCommand
  | events, _ => false

namespace Viewing

/-- What a tick shows of a lane is the first item of its queue. -/
theorem filter_backlogHead (σ : Viewing ρ) (l : Lane) :
    σ.backlogHead.filter l.shows = (σ.next? l).toList.filterMap l.delta? := by
  have hops : ∀ op : Option MarkerOp, (op.map ViewDelta.ofOp).toList.filter Lane.ops.shows =
      (op.map ViewDelta.ofOp).toList ∧
      (op.map ViewDelta.ofOp).toList.filter Lane.commands.shows = [] := by
    intro op
    cases op with
    | none => exact ⟨rfl, rfl⟩
    | some op => cases op <;> exact ⟨rfl, rfl⟩
  have hcommands : ∀ command : Option MapCommand,
      (command.map ViewDelta.command).toList.filter Lane.ops.shows = [] ∧
      (command.map ViewDelta.command).toList.filter Lane.commands.shows =
        (command.map ViewDelta.command).toList := by
    intro command
    cases command <;> exact ⟨rfl, rfl⟩
  rw [backlogHead, List.filter_append]
  cases l with
  | ops =>
    rw [(hops _).1, (hcommands _).1, List.append_nil]
    cases σ.next? .ops <;> rfl
  | commands =>
    rw [(hops _).2, (hcommands _).2, List.nil_append]
    cases σ.next? .commands <;> rfl
  | events =>
    have hnone : σ.next? .events = none := by
      rw [next?, subscriber?, Watch.subscriber?_events]
      rfl
    rw [hnone, ← List.filter_append]
    exact List.filter_eq_nil_iff.2 fun d _ => Bool.false_ne_true

variable [FleetDraws ρ]

/-! ## One turn, seen from one lane -/

/-- What the view shows of a lane in a turn is what its subscription receives. -/
theorem Sound.shows_step {σ : Viewing ρ} (h : σ.Sound) {l : Lane} {id : SubscriberId}
    (hid : σ.subscriber? l = some id) (t : Turn) :
    (σ.step t).1.filter l.shows =
      (received id (σ.hub.lane l) (σ.does l t)).filterMap l.delta? := by
  have hnext : (σ.next? l).toList = received id (σ.hub.lane l) (asks (some id)) := by
    rw [Channel.received_asks, next?, hid]
    rfl
  have hquits : .listen (.receive id) ∉ (quits (some id) : List (Channel.Action l.Item)) := by
    intro hm
    cases List.mem_singleton.1 hm
  cases h.step_cases t with
  | spares _ shows _ _ kept =>
    rw [shows, Channel.received_of_no_receive (kept l id hid).2.1]
    rfl
  | stays _ shows _ _ _ does => rw [shows, filter_backlogHead, hnext, does, hid]
  | ends _ shows _ _ _ does =>
    rw [shows, filter_backlogHead, hnext, does, hid, Channel.received_append,
      Channel.received_of_no_receive hquits, List.append_nil]
  | closes _ _ shows _ _ _ does =>
    rw [shows, does, hid, Channel.received_of_no_receive hquits]
    rfl

/-- After a turn the view still holds its subscription, and has not let go of it, or it is closed
and nothing of the subscription is left. -/
theorem Sound.kept_or_closed {σ : Viewing ρ} (h : σ.Sound) {l : Lane} {id : SubscriberId}
    (hid : σ.subscriber? l = some id) (t : Turn) :
    ((σ.step t).2.subscriber? l = some id ∧ ∀ b ∈ σ.does l t, b.letsGo id = false) ∨
      ((σ.step t).2.isClosed = true ∧ ((σ.step t).2.hub.lane l).mailbox? id = none) := by
  cases h.step_cases t with
  | spares _ _ _ _ kept => exact Or.inl ⟨(kept l id hid).1, (kept l id hid).2.2⟩
  | stays _ _ _ _ kept does =>
    refine Or.inl ⟨(kept l).trans hid, fun b hb => ?_⟩
    rw [does, hid] at hb
    rw [List.mem_singleton.1 hb]
    rfl
  | ends _ _ _ closed _ does =>
    refine Or.inr ⟨closed, ?_⟩
    rw [h.lane_step, does, hid, Channel.run_append]
    exact Channel.mailbox?_leave_self ((h.hub.lane l).run _) id
  | closes _ _ _ _ closed _ does =>
    refine Or.inr ⟨closed, ?_⟩
    rw [h.lane_step, does, hid]
    exact Channel.mailbox?_leave_self (h.hub.lane l) id

/-- A closed view stays closed, for the same reason, and shows nothing. -/
theorem Sound.step_of_closed {σ : Viewing ρ} (h : σ.Sound) (hc : σ.isClosed = true) (t : Turn) :
    (σ.step t).1 = [] ∧ (σ.step t).2.isClosed = true ∧
      (σ.step t).2.closeReason? = σ.closeReason? ∧ σ.ticks t = false := by
  have hopen : σ.isClosed = false → False := fun ho => by
    rw [hc] at ho
    cases ho
  cases h.step_cases t with
  | spares ticks shows closed reason _ => exact ⟨shows, closed.trans hc, reason, ticks⟩
  | stays ticks => exact (hopen (isClosed_of_ticks ticks)).elim
  | ends ticks => exact (hopen (isClosed_of_ticks ticks)).elim
  | closes _ _ _ isOpen => exact (hopen isOpen).elim

/-! ## Runs -/

/-- Every run keeps a view sound. -/
theorem Sound.run {σ : Viewing ρ} (h : σ.Sound) (turns : List Turn) : (σ.run turns).Sound := by
  induction turns generalizing σ with
  | nil => exact h
  | cons t rest ih => exact ih (h.step t)

/-- A run does to the channel of each lane what it says. -/
theorem Sound.lane_run {σ : Viewing ρ} (h : σ.Sound) (turns : List Turn) (l : Lane) :
    (σ.run turns).hub.lane l = (σ.hub.lane l).run (σ.doings l turns) := by
  induction turns generalizing σ with
  | nil => rfl
  | cons t rest ih => rw [run_cons, ih (h.step t), h.lane_step, doings, Channel.run_append]

/-- A run changes the capacity of no channel. -/
theorem Sound.capacity_lane_run {σ : Viewing ρ} (h : σ.Sound) (turns : List Turn) (l : Lane) :
    ((σ.run turns).hub.lane l).capacity = (σ.hub.lane l).capacity := by
  rw [h.lane_run, Channel.capacity_run]

/-- A closed view stays closed, shows nothing, and does not tick. -/
theorem Sound.run_of_closed {σ : Viewing ρ} (h : σ.Sound) (hc : σ.isClosed = true)
    (turns : List Turn) :
    σ.shown turns = [] ∧ (σ.run turns).isClosed = true ∧ σ.connectedTicks turns = 0 := by
  induction turns generalizing σ with
  | nil => exact ⟨rfl, hc, rfl⟩
  | cons t rest ih =>
    obtain ⟨hshows, hclosed, -, hticks⟩ := h.step_of_closed hc t
    obtain ⟨hshown, hrun, hnone⟩ := ih (h.step t) hclosed
    refine ⟨?_, hrun, ?_⟩
    · rw [shown, hshows, hshown]
      rfl
    · rw [connectedTicks, hticks, hnone]
      rfl

/-- What the view shows of a lane is what its subscription receives. -/
theorem Sound.filter_shown {σ : Viewing ρ} (h : σ.Sound) {l : Lane} {id : SubscriberId}
    (hid : σ.subscriber? l = some id) (turns : List Turn) :
    (σ.shown turns).filter l.shows =
      (received id (σ.hub.lane l) (σ.doings l turns)).filterMap l.delta? := by
  induction turns generalizing σ with
  | nil => rfl
  | cons t rest ih =>
    have hrest : ((σ.step t).2.shown rest).filter l.shows =
        (received id ((σ.step t).2.hub.lane l)
          ((σ.step t).2.doings l rest)).filterMap l.delta? := by
      rcases h.kept_or_closed hid t with ⟨hkept, -⟩ | ⟨hclosed, hgone⟩
      · exact ih (h.step t) hkept
      · -- Once the view is closed there is nothing to receive, and nothing is shown.
        have hlater : id < ((σ.step t).2.hub.lane l).nextId := by
          rw [h.lane_step]
          exact Nat.lt_of_lt_of_le (h.lt_nextId hid) (Channel.nextId_le_run _ _)
        rw [((h.step t).run_of_closed hclosed rest).1,
          Channel.received_of_no_mailbox ((h.step t).hub.lane l) hlater hgone]
        rfl
    rw [shown, List.filter_append, h.shows_step hid, hrest, h.lane_step, ← List.filterMap_append,
      ← Channel.received_append, doings]

/-- A view that still holds its subscription after a run has not let go of it. -/
theorem Sound.letsGo_of_held_run {σ : Viewing ρ} (h : σ.Sound) {l : Lane} {id own : SubscriberId}
    (hid : σ.subscriber? l = some id) {turns : List Turn}
    (hheld : (σ.run turns).subscriber? l = some own) :
    own = id ∧ ∀ b ∈ σ.doings l turns, b.letsGo id = false := by
  induction turns generalizing σ with
  | nil =>
    rw [run_nil, hid] at hheld
    exact ⟨(Option.some.inj hheld).symm, fun b hb => absurd hb List.not_mem_nil⟩
  | cons t rest ih =>
    rcases h.kept_or_closed hid t with ⟨hkept, hgo⟩ | ⟨hclosed, -⟩
    · obtain ⟨hown, hrest⟩ := ih (h.step t) hkept hheld
      refine ⟨hown, fun b hb => ?_⟩
      rcases List.mem_append.1 hb with hfirst | hlater
      · exact hgo b hfirst
      · exact hrest b hlater
    · have hend := ((h.step t).run_of_closed hclosed rest).2.1
      rw [run_cons, ((h.step t).run rest).subscriber?_of_closed hend] at hheld
      cases hheld

/-! ## The ticks that remain -/

/-- As long as the view stays open, each tick that takes effect brings the end of a subscription
that was cut off nearer by one. -/
theorem Sound.remaining_step {σ : Viewing ρ} (h : σ.Sound) {l : Lane} {id : SubscriberId}
    (hid : σ.subscriber? l = some id) (hcut : (σ.hub.lane l).isSubscribed id = false) {t : Turn}
    (hopen : (σ.step t).2.isClosed = false) :
    (σ.step t).2.subscriber? l = some id ∧
      ((σ.step t).2.hub.lane l).isSubscribed id = false ∧
      (σ.ticks t).toNat + (σ.step t).2.remaining l = σ.remaining l := by
  have hlt := h.lt_nextId hid
  rcases h.kept_or_closed hid t with ⟨hkept, hgo⟩ | ⟨hclosed, -⟩
  · have hstays : ((σ.step t).2.hub.lane l).isSubscribed id = false := by
      rw [h.lane_step]
      refine Bool.eq_false_iff.2 fun hback => ?_
      rw [Channel.isSubscribed_of_run hlt hback] at hcut
      cases hcut
    refine ⟨hkept, hstays, ?_⟩
    -- Nothing is added to the queue, and a tick takes one item of it.
    have hqueue := (h.hub.lane l).received_append_queued_of_cut hlt hcut hgo
    rw [← h.lane_step] at hqueue
    have htaken : (received id (σ.hub.lane l) (σ.does l t)).length = (σ.ticks t).toNat := by
      cases h.step_cases t with
      | ends _ _ _ closed => cases closed.symm.trans hopen
      | closes _ _ _ _ closed => cases closed.symm.trans hopen
      | spares ticks _ _ _ kept =>
        rw [Channel.received_of_no_receive (kept l id hid).2.1, ticks]
        rfl
      | stays ticks _ cutOff _ _ does =>
        have hmore := queued_ne_nil_of_not_isCutOff cutOff hid hcut
        rw [does, hid, Channel.received_asks, ticks]
        cases hq : (σ.hub.lane l).queued id with
        | nil => exact absurd hq hmore
        | cons item rest => rfl
    have hlength := congrArg List.length hqueue
    rw [List.length_append, htaken] at hlength
    rw [remaining, remaining, hkept, hid]
    dsimp only
    omega
  · rw [hopen] at hclosed
    cases hclosed

/-- Once a subscription is cut off, no more ticks take effect than remain, and with the last of them
the session is closed. -/
theorem Sound.connectedTicks_le {σ : Viewing ρ} (h : σ.Sound) {l : Lane} {id : SubscriberId}
    (hid : σ.subscriber? l = some id) (hcut : (σ.hub.lane l).isSubscribed id = false)
    (turns : List Turn) :
    σ.connectedTicks turns ≤ σ.remaining l ∧
      (σ.connectedTicks turns = σ.remaining l → (σ.run turns).isClosed = true) := by
  have hpos : ∀ {τ : Viewing ρ}, τ.subscriber? l = some id → 1 ≤ τ.remaining l := by
    intro τ hτ
    rw [remaining, hτ]
    exact Nat.le_add_left 1 _
  induction turns generalizing σ with
  | nil =>
    refine ⟨Nat.zero_le _, fun he => ?_⟩
    have hone := hpos hid
    rw [← he] at hone
    cases hone
  | cons t rest ih =>
    have hticks := Bool.toNat_le (σ.ticks t)
    cases hclosed : (σ.step t).2.isClosed with
    | true =>
      -- No tick takes effect after this turn, and in it one at most.
      obtain ⟨-, hend, hnone⟩ := (h.step t).run_of_closed hclosed rest
      have hone := hpos hid
      rw [connectedTicks, hnone]
      exact ⟨by omega, fun _ => hend⟩
    | false =>
      obtain ⟨hkept, hstill, hless⟩ := h.remaining_step hid hcut hclosed
      obtain ⟨hle, hlast⟩ := ih (h.step t) hkept hstill
      rw [connectedTicks]
      exact ⟨by omega, fun he => hlast (by omega)⟩

/-- Whether nothing that the view holds on a lane is cut off in the course of some turns. -/
def Lives (σ : Viewing ρ) (l : Lane) (turns : List Turn) : Prop :=
  ∀ done rest, turns = done ++ rest → ∀ id, (σ.run done).subscriber? l = some id →
    ((σ.run done).hub.lane l).isSubscribed id = true

/-- Once a subscription is cut off, and no other is, and nobody closes the session from outside, it
is closed exactly with the last tick that remains. -/
theorem Sound.isClosed_iff_connectedTicks {σ : Viewing ρ} (h : σ.Sound) {l : Lane}
    {id : SubscriberId} (hid : σ.subscriber? l = some id)
    (hcut : (σ.hub.lane l).isSubscribed id = false) {turns : List Turn}
    (hinside : ∀ reason, .act (.close reason) ∉ turns)
    (hothers : ∀ m, m ≠ l → σ.Lives m turns) :
    (σ.run turns).isClosed = true ↔ σ.connectedTicks turns = σ.remaining l := by
  refine ⟨fun hend => ?_, (h.connectedTicks_le hid hcut turns).2⟩
  -- Induction on the turns: the session is closed in the first of them, or what remains gets less.
  induction turns generalizing σ with
  | nil => cases (h.isOpen_of_held hid).symm.trans hend
  | cons t rest ih =>
    cases hclosed : (σ.step t).2.isClosed with
    | false =>
      obtain ⟨hkept, hstill, hless⟩ := h.remaining_step hid hcut hclosed
      have hrest := ih (h.step t) hkept hstill
        (fun reason hm => hinside reason (List.mem_cons_of_mem t hm))
        (fun m hm done later hd => hothers m hm (t :: done) later (congrArg (t :: ·) hd)) hend
      rw [connectedTicks, hrest, hless]
    | true =>
      have hnone := ((h.step t).run_of_closed hclosed rest).2.2
      have hopen := h.isOpen_of_held hid
      cases h.step_cases t with
      | spares _ _ closed => cases (closed.symm.trans hclosed).symm.trans hopen
      | stays _ _ _ closed => cases closed.symm.trans hclosed
      | closes reason turn => exact absurd (turn ▸ List.mem_cons_self) (hinside reason)
      | ends ticks _ cutOff =>
        -- It is this lane that is exhausted, because the other one lives.
        have hlane : ∀ m, σ.isExhausted m = true → m = l := by
          intro m hm
          by_contra hne
          obtain ⟨own, hown, -, hdead⟩ := exists_of_isExhausted hm
          have hlive : (σ.hub.lane m).isSubscribed own = true :=
            hothers m hne [] (t :: rest) rfl own hown
          rw [hdead] at hlive
          cases hlive
        have hthis : σ.isExhausted l = true := by
          rw [isCutOff, Bool.or_eq_true] at cutOff
          rcases cutOff with hops | hcommands
          · rw [← hlane .ops hops]
            exact hops
          · rw [← hlane .commands hcommands]
            exact hcommands
        rw [connectedTicks, hnone, ticks, remaining_of_isExhausted hthis]
        rfl

/-- Whether a publication evicts a subscription of the view in a turn. -/
def Evicts (σ : Viewing ρ) (t : Turn) (l : Lane) (id : SubscriberId) : Prop :=
  σ.subscriber? l = some id ∧ id ∈ evictions (σ.hub.lane l) (σ.does l t)

/-- Whoever is evicted is cut off with a full queue, and as many ticks remain as it has items, and
one more. -/
theorem Sound.remaining_of_evicts {σ : Viewing ρ} (h : σ.Sound) {t : Turn} {l : Lane}
    {id : SubscriberId} (he : σ.Evicts t l id) :
    (σ.step t).2.subscriber? l = some id ∧
      ((σ.step t).2.hub.lane l).isSubscribed id = false ∧
      (σ.step t).2.remaining l = (σ.hub.lane l).capacity + 1 := by
  obtain ⟨hid, hmem⟩ := he
  cases h.step_cases t with
  | stays _ _ _ _ _ does =>
    rw [does, hid] at hmem
    cases hmem
  | ends _ _ _ _ _ does =>
    rw [does, hid] at hmem
    cases hmem
  | closes _ _ _ _ _ _ does =>
    rw [does, hid] at hmem
    cases hmem
  | spares _ _ _ _ kept =>
    obtain ⟨hkept, hasks, hgo⟩ := kept l id hid
    have hfull := (h.hub.lane l).full_of_evicted hasks hgo hmem
    rw [← h.lane_step] at hfull
    refine ⟨hkept, hfull.1, ?_⟩
    rw [remaining, hkept]
    exact congrArg (· + 1) hfull.2

/-! ## What is shown -/

/-- What some turns show of a lane on which nothing was queued for the view at first. -/
structure Shown (l : Lane) (σ : Viewing ρ) (turns : List Turn) : Prop where
  /-- An initial part of what was published. -/
  initial : ∃ seen, seen <+: published (σ.doings l turns) ∧
    (σ.shown turns).filter l.shows = seen.filterMap l.delta?
  /-- All that was published before the view was cut off, once it has nothing left. -/
  all : (σ.run turns).isExhausted l = true → ∀ id, σ.subscriber? l = some id →
    (σ.shown turns).filter l.shows =
      (published (attended id (σ.hub.lane l) (σ.doings l turns))).filterMap l.delta?

/-- From the moment on at which it subscribes to a lane, a view shows what is published there. -/
theorem Sound.shown_of_empty {σ : Viewing ρ} (h : σ.Sound) {l : Lane} {id : SubscriberId}
    (hid : σ.subscriber? l = some id) (hempty : (σ.hub.lane l).queued id = []) (turns : List Turn) :
    Shown l σ turns where
  initial := ⟨_, Channel.received_initial (h.hub.lane l) (h.lt_nextId hid) hempty _,
    h.filter_shown hid turns⟩
  all hex id' hid' := by
    rw [hid] at hid'
    cases hid'
    obtain ⟨own, hown, hnone, -⟩ := exists_of_isExhausted hex
    obtain ⟨rfl, hgo⟩ := h.letsGo_of_held_run hid hown
    have hall := Channel.received_append_queued_of_held (h.hub.lane l) (h.lt_nextId hid) hgo
    rw [← h.lane_run, hnone, hempty, List.append_nil, List.nil_append] at hall
    rw [h.filter_shown hid, hall]

/-- Before it is mounted a view shows nothing, and keeps its source. -/
theorem run_of_unmounted {σ : Viewing ρ} {source : Source ρ} (hs : σ.watch = .attached source)
    {turns : List Turn} (hm : .mount ∉ turns) :
    (σ.run turns).watch = .attached source ∧ σ.shown turns = [] := by
  induction turns generalizing σ with
  | nil => exact ⟨hs, rfl⟩
  | cons t rest ih =>
    have hfirst : (σ.step t).2.watch = .attached source ∧ (σ.step t).1 = [] := by
      cases t with
      | mount => exact absurd List.mem_cons_self hm
      | act t =>
        rw [step, own, hs]
        exact ⟨rfl, rfl⟩
      | other a =>
        refine ⟨?_, rfl⟩
        show (if σ.watch.reserves a then σ else { σ with hub := σ.hub.act a }).watch = _
        split <;> exact hs
    obtain ⟨hwatch, hshown⟩ := ih hfirst.1 fun hrest => hm (List.mem_cons_of_mem t hrest)
    refine ⟨hwatch, ?_⟩
    rw [shown, hfirst.2, hshown]
    rfl

/-- A view that is mounted has just subscribed to the commands, and has shown nothing yet. -/
theorem shown_commands {start : Viewing ρ} (h : start.Sound) {source : Source ρ}
    (hs : start.watch = .attached source) {before : List Turn} (hm : .mount ∉ before)
    (after : List Turn) :
    start.shown (before ++ .mount :: after) =
        (start.run (before ++ [.mount])).shown after ∧
      Shown .commands (start.run (before ++ [.mount])) after := by
  obtain ⟨hwatch, hshown⟩ := run_of_unmounted hs hm
  have hbefore := h.run before
  have hmounted : start.run (before ++ [.mount]) =
      ⟨.mounted (Session.mount source (start.run before).hub).1,
        (Session.mount source (start.run before).hub).2⟩ := by
    rw [run_append, run_cons, run_nil, step, own, hwatch]
    rfl
  have hfirst : ((start.run before).step .mount).1 = [] := by
    rw [step, own, hwatch]
    rfl
  refine ⟨?_, ?_⟩
  · rw [shown_append, hshown, List.nil_append, shown, hfirst, List.nil_append, run_append, run_cons,
      run_nil]
  · have hid : (start.run (before ++ [.mount])).subscriber? .commands =
        some (start.run before).hub.commands.nextId := by
      rw [hmounted]
      rfl
    refine (h.run (before ++ [.mount])).shown_of_empty hid ?_ after
    rw [hmounted]
    exact Channel.queued_subscribe_self hbefore.hub.commands

/-! ## The backlog of a view -/

/-- What holds of a view of the shared registry after some turns, on a hub of some capacity. -/
structure Backlog (capacity : Nat) (start : Viewing ρ) (turns : List Turn) : Prop where
  /-- This is all that was done to the channel of a lane. -/
  lane : ∀ l, (start.run turns).hub.lane l = (start.hub.lane l).run (start.doings l turns)
  /-- The view never fails. -/
  present : (start.run turns).watch ≠ .absent
  /-- A tick that takes effect shows the first operation that is queued for the view, if there is
  one, and then the first command. Nothing else shows anything. -/
  shows : ∀ t, ((start.run turns).step t).1 =
    if (start.run turns).ticks t then (start.run turns).backlogHead else []
  /-- The view has shown an initial part of the operations published since it subscribed, all of
  them up to its cut-off if the queue is empty and cut off. -/
  operations : Shown .ops start turns
  /-- It has shown an initial part of the commands published since it was mounted, all of them up to
  its cut-off if the queue is empty and cut off. -/
  commands : ∀ before after, turns = before ++ .mount :: after → .mount ∉ before →
    start.shown turns = (start.run (before ++ [.mount])).shown after ∧
      Shown .commands (start.run (before ++ [.mount])) after
  /-- A tick that takes effect closes the session exactly if one of its queues is empty and cut off,
  and does so for this reason. -/
  ends : ∀ t, (start.run turns).ticks t = true →
    (((start.run turns).step t).2.isClosed = true ↔ (start.run turns).isCutOff = true) ∧
      (((start.run turns).step t).2.isClosed = true →
        ((start.run turns).step t).2.closeReason? = some .evicted)
  /-- Otherwise an open session is closed from outside only. -/
  closes : (start.run turns).isClosed = false → ∀ t, (start.run turns).ticks t = false →
    ((start.run turns).step t).2.isClosed = true →
      ∃ reason, t = .act (.close reason) ∧
        ((start.run turns).step t).2.closeReason? = some reason
  /-- A closed session stays closed for the same reason, shows nothing, and ticks without effect. -/
  closed : (start.run turns).isClosed = true → ∀ t, ((start.run turns).step t).1 = [] ∧
    ((start.run turns).step t).2.isClosed = true ∧
    ((start.run turns).step t).2.closeReason? = (start.run turns).closeReason? ∧
    (start.run turns).ticks t = false
  /-- After an eviction no more ticks take effect than a queue can hold and one more. With the last
  of these the session is closed, and no sooner if nothing it holds on another lane is cut off and
  nobody closes it from outside. -/
  evicted : ∀ before t after l id, turns = before ++ t :: after → (start.run before).Evicts t l id →
    let σ := ((start.run before).step t).2
    σ.connectedTicks after ≤ Channel.clampCapacity capacity + 1 ∧
      (σ.connectedTicks after = Channel.clampCapacity capacity + 1 →
        (start.run turns).isClosed = true) ∧
      ((∀ reason, .act (.close reason) ∉ after) → (∀ m, m ≠ l → σ.Lives m after) →
        ((start.run turns).isClosed = true ↔
          σ.connectedTicks after = Channel.clampCapacity capacity + 1))

/-- A view that has just subscribed to the shared registry shows its backlog, whatever happens. -/
theorem Sound.backlog {start : Viewing ρ} (h : start.Sound) {id : SubscriberId}
    (hwatch : start.watch = .attached (.shared id)) (hempty : start.hub.ops.queued id = [])
    {capacity : Nat} (hcapacity : ∀ l, (start.hub.lane l).capacity = Channel.clampCapacity capacity)
    (turns : List Turn) : Backlog capacity start turns := by
  have hend := h.run turns
  constructor
  case lane => exact h.lane_run turns
  case present =>
    intro habsent
    have hshared := hend.shared
    rw [habsent] at hshared
    exact hshared
  case operations =>
    have hid : start.subscriber? .ops = some id := by
      rw [subscriber?, hwatch]
      rfl
    exact h.shown_of_empty hid hempty turns
  case commands =>
    rintro before after rfl hm
    exact shown_commands h hwatch hm after
  case shows =>
    intro t
    cases hend.step_cases t with
    | spares ticks shows =>
      rw [ticks]
      exact shows
    | stays ticks shows =>
      rw [ticks]
      exact shows
    | ends ticks shows =>
      rw [ticks]
      exact shows
    | closes _ turn shows =>
      rw [turn] at shows ⊢
      exact shows
  case ends =>
    intro t ht
    cases hend.step_cases t with
    | spares ticks => cases ticks.symm.trans ht
    | closes _ turn =>
      rw [turn] at ht
      cases ht
    | stays _ _ cutOff closed =>
      rw [cutOff, closed]
      exact ⟨Iff.rfl, fun he => by cases he⟩
    | ends _ _ cutOff closed reason =>
      rw [cutOff, closed]
      exact ⟨Iff.rfl, fun _ => reason⟩
  case closes =>
    intro hopen t ht hclosed
    cases hend.step_cases t with
    | spares _ _ closed => cases (closed.symm.trans hclosed).symm.trans hopen
    | stays ticks => cases ticks.symm.trans ht
    | ends ticks => cases ticks.symm.trans ht
    | closes reason turn _ _ _ because => exact ⟨reason, turn, because⟩
  case closed => exact hend.step_of_closed
  case evicted =>
    rintro before t after l id rfl he σ
    -- What remains after the eviction are the items of a full queue, and one more tick.
    have hbefore := h.run before
    obtain ⟨hkept, hcut, hremaining⟩ := hbefore.remaining_of_evicts he
    rw [h.capacity_lane_run, hcapacity] at hremaining
    have hsound := hbefore.step t
    obtain ⟨hle, hlast⟩ := hsound.connectedTicks_le hkept hcut after
    rw [run_append, run_cons, ← hremaining]
    exact ⟨hle, hlast, hsound.isClosed_iff_connectedTicks hkept hcut⟩

/-- Whatever happened before a view subscribed to the shared registry, and whatever happens then, it
shows its backlog in order, and closes when it is cut off and has none left. -/
theorem view_shows_its_backlog (capacity : Nat) (history : List Hub.Action) (turns : List Turn) :
    Backlog capacity (attach ((Hub.create capacity).run history) : Viewing ρ) turns := by
  have hv : ((Hub.create capacity).run history).Valid := (Hub.valid_create capacity).run history
  refine (sound_attach hv).backlog rfl (Channel.queued_subscribe_self hv.ops) (fun l => ?_) turns
  -- Subscribing is an action like those before.
  obtain ⟨name, hnew⟩ := Hub.lane_create capacity l
  have hall := Hub.capacity_lane_run (Hub.create capacity) (history ++ [.listenOps .subscribe]) l
  rw [Hub.run_append, hnew] at hall
  exact hall

/-- The queues of this hub hold two items. The third command evicts a slow view, two ticks show what
it has, and the next one closes it. -/
example :
    let start : Viewing Tape := attach (.create 2)
    let issue : Turn := .other (.issue .resetView)
    let turns := [.mount, .act .connect, issue, issue, issue, .act .tick, .act .tick, .act .tick]
    (start.run (turns.take 7)).isClosed = false ∧ (start.run turns).isClosed = true ∧
      (start.run turns).closeReason? = some .evicted ∧ (start.shown turns).length = 2 := by
  decide

end Viewing

end LiveMap
