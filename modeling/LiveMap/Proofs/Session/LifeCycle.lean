import LiveMap.Proofs.Session.Simulated

/-!
# The life of a session

A session is mounted, then connected, then ticks, and is closed for good at some time. Closing may
come from outside, or from a tick that finds a queue at its end, any number of times and in any
order with all else; only the first time counts.

What holds of a session at any moment (`Coherent`) ties what it holds and the reason for its end to
its stage. All that a turn can do to such a session is said once, in `step_of_coherent`; what a run
does follows by induction on its turns.

Main statement: `session_lives_once`, for every source, every hub, and whatever happens to the
session and the hub.
-/

namespace LiveMap

variable {ρ : Type}

/-! ## Stages -/

/-- The place of a stage in the life of a session. -/
def SessionPhase.rank : SessionPhase → Nat
  | mounted => 0
  | connected => 1
  | ticking => 2
  | closed => 3

/-- Whether a stage can come right after another one: each after the one in front of it, and the
last after all the others. -/
inductive SessionPhase.Precedes : SessionPhase → SessionPhase → Prop where
  /-- The transport is up. -/
  | connects : Precedes mounted connected
  /-- The first tick takes effect. -/
  | ticks : Precedes connected ticking
  /-- The session is closed. -/
  | closes {p : SessionPhase} (h : p ≠ closed) : Precedes p closed

/-- A stage that comes after another one is a later one. -/
theorem SessionPhase.Precedes.rank_lt {p q : SessionPhase} (h : p.Precedes q) :
    p.rank < q.rank := by
  cases h with
  | connects | ticks => decide
  | closes h =>
    cases p with
    | mounted | connected | ticking => decide
    | closed => exact absurd rfl h

namespace Session

/-- The reason that a turn gives for closing the session, if it gives one. From outside any reason
is given; a tick that takes effect and finds a queue at its end gives that the session was evicted.
-/
def closing (s : Session ρ) (hub : Hub) : Session.Turn → Option CloseReason
  | .close reason => some reason
  | .tick => if s.isConnected && s.findsEnd hub then some .evicted else none
  | .connect | .forward _ => none

/-- What holds of a session at any moment. -/
structure Coherent (s : Session ρ) : Prop where
  /-- It holds its source and its subscription until it is closed. -/
  intact : s.Intact
  /-- There is a reason for its end exactly if it is closed. -/
  reason : s.closeReason.isSome = true ↔ s.phase = .closed

/-- A new session is coherent. -/
theorem coherent_mount (source : Source ρ) (hub : Hub) : (mount source hub).1.Coherent where
  intact := ⟨iff_of_false (Option.some_ne_none _) SessionPhase.noConfusion,
    iff_of_false (Option.some_ne_none _) SessionPhase.noConfusion⟩
  reason := iff_of_false Bool.false_ne_true SessionPhase.noConfusion

/-- An open session has no reason for its end yet. -/
theorem Coherent.closeReason_of_ne {s : Session ρ} (h : s.Coherent) (hopen : s.phase ≠ .closed) :
    s.closeReason = none := by
  rw [← Option.not_isSome_iff_eq_none, h.reason]
  exact hopen

/-- The reason for the end of a closed session is not replaced. -/
theorem Coherent.closeReason_or {s : Session ρ} (h : s.Coherent) (hclosed : s.phase = .closed)
    (other : Option CloseReason) : s.closeReason.or other = s.closeReason := by
  obtain ⟨reason, hreason⟩ := Option.isSome_iff_exists.1 (h.reason.2 hclosed)
  rw [hreason, Option.some_or]

/-- A session is connected in the two stages in the middle. -/
theorem isConnected_iff {s : Session ρ} :
    s.isConnected = true ↔ s.phase = .connected ∨ s.phase = .ticking := by
  rw [isConnected, Bool.or_eq_true, decide_eq_true_iff, decide_eq_true_iff]

/-- A session is not connected in the first stage and in the last. -/
theorem not_isConnected_of_or {s : Session ρ} (h : s.phase = .mounted ∨ s.phase = .closed) :
    s.isConnected = false := by
  unfold isConnected
  rcases h with h | h <;> rw [h] <;> rfl

end Session

/-! ## One turn -/

namespace Viewing

/-- The reason that a turn gives for closing the session, if it gives one. -/
def closing (σ : Viewing ρ) : Turn → Option CloseReason
  | .act t =>
    match σ.watch with
    | .mounted s => s.closing σ.hub t
    | .absent | .attached _ => none
  | .mount | .other _ => none

/-- A tick gives a reason if it takes effect and finds a queue at its end. -/
theorem closing_tick (s : Session ρ) (hub : Hub) :
    (⟨.mounted s, hub⟩ : Viewing ρ).closing (.act .tick) =
      if s.isConnected && s.findsEnd hub then some .evicted else none := rfl

/-- What a turn can do to the session of a view. -/
structure Advances (σ : Viewing ρ) (t : Turn) (s s' : Session ρ) : Prop where
  /-- The session is still coherent. -/
  coherent : s'.Coherent
  /-- Its stage is the same, or one that comes right after. -/
  phase : s'.phase = s.phase ∨ s.phase.Precedes s'.phase
  /-- The first reason for its end that was given is kept. -/
  closeReason : s'.closeReason = s.closeReason.or (σ.closing t)
  /-- A tick that takes effect is counted. -/
  ticks : s'.ticks = s.ticks + (σ.ticks t).toNat
  /-- After such a tick the session is ticking, unless the tick closed it. -/
  ticking : σ.ticks t = true → s'.phase = .ticking ∨ s'.phase = .closed
  /-- Nothing is done to a closed session. -/
  final : s.phase = .closed → s' = s

/-- A turn that leaves the session alone is one, if it is no tick that takes effect, and gives a
reason for the end only if there is one. -/
theorem advances_self {σ : Viewing ρ} {t : Turn} {s : Session ρ} (h : s.Coherent)
    (hclosing : s.closeReason.or (σ.closing t) = s.closeReason) (ht : σ.ticks t = false) :
    σ.Advances t s s where
  coherent := h
  phase := .inl rfl
  closeReason := hclosing.symm
  ticks := by
    rw [ht]
    rfl
  ticking h := by
    rw [ht] at h
    cases h
  final _ := rfl

end Viewing

namespace Session

/-- Establishing the transport. -/
theorem Coherent.advances_connect {s : Session ρ} (h : s.Coherent) (hub : Hub) :
    Viewing.Advances ⟨.mounted s, hub⟩ (.act .connect) s s.connect := by
  unfold connect
  split
  · next hmounted =>
    have hopen : s.phase ≠ .closed := by
      rw [hmounted]
      exact SessionPhase.noConfusion
    refine ⟨⟨⟨?_, ?_⟩, ?_⟩, .inr ?_, Option.or_none.symm, rfl, fun ht => (by cases ht),
      fun hc => absurd hc hopen⟩
    · exact iff_of_false (mt h.intact.source.1 hopen) SessionPhase.noConfusion
    · exact iff_of_false (mt h.intact.commands.1 hopen) SessionPhase.noConfusion
    · exact iff_of_false (mt h.reason.1 hopen) SessionPhase.noConfusion
    · rw [hmounted]
      exact .connects
  · exact Viewing.advances_self h Option.or_none rfl

/-- Closing from outside. -/
theorem Coherent.advances_close {s : Session ρ} (h : s.Coherent) (reason : CloseReason)
    (hub : Hub) :
    Viewing.Advances ⟨.mounted s, hub⟩ (.act (.close reason)) s (s.close reason hub).1 := by
  by_cases hc : s.phase = .closed
  · rw [close, if_pos hc]
    exact Viewing.advances_self h (h.closeReason_or hc _) rfl
  · rw [close_eq hc]
    refine ⟨⟨intact_closed s reason, iff_of_true rfl rfl⟩, .inr (.closes hc), ?_, rfl,
      fun _ => .inr rfl, fun hclosed => absurd hclosed hc⟩
    rw [h.closeReason_of_ne hc]
    rfl

/-- A tick that has a result. -/
theorem Coherent.advances_tick [FleetDraws ρ] {s s' : Session ρ} {hub hub' : Hub}
    {deltas : List ViewDelta} (h : s.Coherent) (htick : s.tick hub = .ok (deltas, s', hub')) :
    Viewing.Advances ⟨.mounted s, hub⟩ (.act .tick) s s' := by
  cases hc : s.isConnected with
  | false =>
    rw [tick_of_not_connected hc] at htick
    cases htick
    refine Viewing.advances_self h ?_ hc
    rw [Viewing.closing_tick, hc, Bool.false_and, if_neg Bool.false_ne_true, Option.or_none]
  | true =>
    have hopen := phase_ne_closed_of_isConnected hc
    have hcount : s.ticks + 1 =
        s.ticks + ((⟨.mounted s, hub⟩ : Viewing ρ).ticks (.act .tick)).toNat := by
      show s.ticks + 1 = s.ticks + s.isConnected.toNat
      rw [hc]
      rfl
    have hintact := (h.intact.moves_tick htick).1
    obtain ⟨op, source, -, -, -, ⟨hnot, rfl, -⟩ | ⟨hend, rfl, -⟩⟩ := h.intact.tick_cases hc htick
    · -- The session stays open.
      refine ⟨⟨hintact, iff_of_false ?_ SessionPhase.noConfusion⟩, ?_, ?_, hcount,
        fun _ => .inl rfl, fun hclosed => absurd hclosed hopen⟩
      · exact mt h.reason.1 hopen
      · rcases isConnected_iff.1 hc with hphase | hphase
        · rw [hphase]
          exact .inr .ticks
        · exact .inl hphase.symm
      · rw [Viewing.closing_tick, hnot, Bool.and_false, if_neg Bool.false_ne_true, Option.or_none]
        rfl
    · refine ⟨⟨hintact, iff_of_true rfl rfl⟩, .inr (.closes hopen), ?_, hcount,
        fun _ => .inr rfl, fun hclosed => absurd hclosed hopen⟩
      rw [Viewing.closing_tick, hc, hend, h.closeReason_of_ne hopen]
      rfl

/-- Every turn that has a result. -/
theorem Coherent.advances [FleetDraws ρ] {s s' : Session ρ} {hub hub' : Hub} {t : Session.Turn}
    {deltas : List ViewDelta} (h : s.Coherent) (hturn : s.turn hub t = .ok (deltas, s', hub')) :
    Viewing.Advances ⟨.mounted s, hub⟩ (.act t) s s' := by
  cases t with
  | tick => exact h.advances_tick hturn
  | connect =>
    cases hturn
    exact h.advances_connect hub
  | forward event =>
    cases hturn
    exact Viewing.advances_self h Option.or_none rfl
  | close reason =>
    have hs : s' = (s.close reason hub).1 :=
      (congrArg (fun r => r.2.1) (Except.ok.inj hturn)).symm
    rw [hs]
    exact h.advances_close reason hub

/-- Whether the fleet of a session fails when it is asked for an operation. -/
def Fails [FleetDraws ρ] (s : Session ρ) : Prop :=
  ∃ g fault, s.source = some (.simulated g) ∧ g.nextOp = .error fault

/-- Only a tick that takes effect has no result, and only if the fleet of the session fails. -/
theorem fails_of_turn [FleetDraws ρ] {s : Session ρ} {hub : Hub} {t : Session.Turn} {fault : Fault}
    (h : s.turn hub t = .error fault) : t = .tick ∧ s.isConnected = true ∧ s.Fails := by
  cases t with
  | connect | forward event | close reason => cases h
  | tick =>
    have htick : s.tick hub = .error fault := h
    refine ⟨rfl, ?_, ?_⟩
    · rw [← Bool.not_eq_false]
      intro hc
      rw [tick_of_not_connected hc] at htick
      cases htick
    · by_contra hsound
      obtain ⟨r, hr⟩ : ∃ r, s.tick hub = .ok r := by
        refine exists_tick_of_poll ?_
        have hsource : s.ticked.source = s.source := rfl
        rw [pollSource, hsource]
        cases hs : s.source with
        | none => exact ⟨_, rfl⟩
        | some source =>
          cases source with
          | shared id => exact ⟨_, rfl⟩
          | simulated g =>
            cases hnext : g.nextOp with
            | error fault => exact absurd ⟨g, fault, hs, hnext⟩ hsound
            | ok picked => exact ⟨_, bind_eq_ok_of (bind_eq_ok_of hnext rfl) rfl⟩
      rw [hr] at htick
      cases htick

end Session

namespace Viewing

/-- A view whose session has just been mounted. -/
def onMount (source : Source ρ) (hub : Hub) : Viewing ρ :=
  ⟨.mounted (Session.mount source hub).1, (Session.mount source hub).2⟩

variable [FleetDraws ρ]

/-- The reasons that some turns give for closing the session, in order. -/
def closings : Viewing ρ → List Turn → List CloseReason
  | _, [] => []
  | σ, t :: rest => (σ.closing t).toList ++ closings (σ.step t).2 rest

/-- Every turn advances the session, or the session goes away because its fleet fails in a tick. -/
theorem step_of_coherent {σ : Viewing ρ} {s : Session ρ} (hs : σ.watch = .mounted s)
    (h : s.Coherent) (t : Turn) :
    (∃ s', (σ.step t).2.watch = .mounted s' ∧ σ.Advances t s s') ∨
      ((σ.step t).2.watch = .absent ∧ t = .act .tick ∧ s.isConnected = true ∧ s.Fails) := by
  obtain ⟨watch, hub⟩ := σ
  cases hs
  cases t with
  | mount => exact .inl ⟨s, rfl, advances_self h Option.or_none rfl⟩
  | other a => exact .inl ⟨s, watch_step_other _ a, advances_self h Option.or_none rfl⟩
  | act t =>
    cases hturn : s.turn hub t with
    | ok r =>
      obtain ⟨deltas, s', hub'⟩ := r
      refine .inl ⟨s', ?_, h.advances hturn⟩
      rw [step, own, Watch.turn, hturn]
    | error fault =>
      obtain ⟨rfl, hc, hfails⟩ := Session.fails_of_turn hturn
      refine .inr ⟨?_, rfl, hc, hfails⟩
      rw [step, own, Watch.turn, hturn]

/-- A turn after which there is still a session has advanced it. -/
theorem advances_of_step {σ : Viewing ρ} {s s' : Session ρ} {t : Turn} (hs : σ.watch = .mounted s)
    (h : s.Coherent) (hs' : (σ.step t).2.watch = .mounted s') : σ.Advances t s s' := by
  obtain ⟨s₁, hs₁, hadvances⟩ | ⟨hgone, -⟩ := step_of_coherent hs h t
  · cases hs₁.symm.trans hs'
    exact hadvances
  · cases hgone.symm.trans hs'

/-- When the user of a view does something, the session stays as it is. -/
theorem step_forward {σ : Viewing ρ} {s : Session ρ} (hs : σ.watch = .mounted s)
    (event : MapEvent) :
    (σ.step (.act (.forward event))).2 = ⟨.mounted s, (s.forward event σ.hub).2⟩ := by
  rw [step, own, hs]
  rfl

/-! ## Runs -/

/-- A view that is gone does not come back. -/
theorem watch_run_of_absent {σ : Viewing ρ} (h : σ.watch = .absent) (turns : List Turn) :
    (σ.run turns).watch = .absent := by
  induction turns generalizing σ with
  | nil => exact h
  | cons t rest ih =>
    refine ih ?_
    obtain ⟨watch, hub⟩ := σ
    cases h
    cases t with
    | mount | act t => rfl
    | other a => exact watch_step_other _ a

/-- Whatever is done to a coherent session, the hub stays valid. -/
theorem valid_run {σ : Viewing ρ} (hi : σ.watch.Intact) (hv : σ.hub.Valid) (turns : List Turn) :
    (σ.run turns).hub.Valid := by
  induction turns generalizing σ with
  | nil => exact hv
  | cons t rest ih =>
    obtain ⟨hintact, hvalid⟩ := valid_step hi hv t
    exact ih hintact hvalid

/-- What a run can do to the session of a view. -/
structure Leads (σ : Viewing ρ) (turns : List Turn) (s s' : Session ρ) : Prop where
  /-- The session is still coherent. -/
  coherent : s'.Coherent
  /-- Its stage is the same or a later one. -/
  phase : s.phase.rank ≤ s'.phase.rank
  /-- The first reason for its end that was given is kept. -/
  closeReason : s'.closeReason = s.closeReason.or (σ.closings turns).head?
  /-- The ticks that take effect are counted. -/
  ticks : s'.ticks = s.ticks + σ.connectedTicks turns
  /-- Nothing is done to a closed session. -/
  final : s.phase = .closed → s' = s

/-- A run leads from the session that a view has to the one that it has afterwards. -/
theorem leads_of_coherent {σ : Viewing ρ} {s s' : Session ρ} (hs : σ.watch = .mounted s)
    (h : s.Coherent) {turns : List Turn} (hs' : (σ.run turns).watch = .mounted s') :
    σ.Leads turns s s' := by
  induction turns generalizing σ s with
  | nil =>
    have hsame : s = s' := Watch.mounted.inj (hs.symm.trans hs')
    subst hsame
    exact ⟨h, Nat.le_refl _, Option.or_none.symm, rfl, fun _ => rfl⟩
  | cons t rest ih =>
    rw [run_cons] at hs'
    obtain ⟨s₁, hs₁, hfirst⟩ | ⟨hgone, -⟩ := step_of_coherent hs h t
    · have hrest := ih hs₁ hfirst.coherent hs'
      refine ⟨hrest.coherent, ?_, ?_, ?_, fun hclosed => ?_⟩
      · refine Nat.le_trans ?_ hrest.phase
        rcases hfirst.phase with hphase | hphase
        · exact Nat.le_of_eq (congrArg SessionPhase.rank hphase.symm)
        · exact Nat.le_of_lt hphase.rank_lt
      · rw [hrest.closeReason, hfirst.closeReason, closings, List.head?_append, Option.or_assoc]
        cases σ.closing t <;> rfl
      · rw [hrest.ticks, hfirst.ticks, connectedTicks, Nat.add_assoc]
      · have hsame := hfirst.final hclosed
        rw [hrest.final (hsame ▸ hclosed), hsame]
    · rw [watch_run_of_absent hgone] at hs'
      cases hs'

/-- A closed session stays. -/
theorem watch_run_of_closed {σ : Viewing ρ} {s : Session ρ} (hs : σ.watch = .mounted s)
    (h : s.Coherent) (hclosed : s.phase = .closed) (turns : List Turn) :
    (σ.run turns).watch = .mounted s := by
  induction turns generalizing σ with
  | nil => exact hs
  | cons t rest ih =>
    obtain ⟨s₁, hs₁, hfirst⟩ | ⟨-, -, hc, -⟩ := step_of_coherent hs h t
    · rw [hfirst.final hclosed] at hs₁
      exact ih hs₁
    · exact absurd hclosed (Session.phase_ne_closed_of_isConnected hc)

/-- The life of the session of a view, whatever happens to it and to the hub. -/
structure LifeCycle (σ₀ : Viewing ρ) : Prop where
  /-- A turn leaves the session in its stage, or takes it to the next one or to the last. -/
  phase : ∀ turns t s s', (σ₀.run turns).watch = .mounted s →
    ((σ₀.run turns).step t).2.watch = .mounted s' →
      s'.phase = s.phase ∨ s.phase.Precedes s'.phase
  /-- It is connected once its transport is up. -/
  connects : ∀ turns s, (σ₀.run turns).watch = .mounted s → s.phase = .mounted →
    ((σ₀.run turns).step (.act .connect)).2.watch = .mounted { s with phase := .connected }
  /-- It never goes back to an earlier stage. -/
  later : ∀ turns more s s', (σ₀.run turns).watch = .mounted s →
    (σ₀.run (turns ++ more)).watch = .mounted s' → s.phase.rank ≤ s'.phase.rank
  /-- There is a reason for its end exactly if it is closed, and it is the first that was given. -/
  reason : ∀ turns s, (σ₀.run turns).watch = .mounted s →
    (s.closeReason.isSome = true ↔ s.phase = .closed) ∧
      s.closeReason = (σ₀.closings turns).head?
  /-- Nothing is done to a closed session. -/
  final : ∀ turns more s, (σ₀.run turns).watch = .mounted s → s.phase = .closed →
    (σ₀.run (turns ++ more)).watch = .mounted s
  /-- It holds a source and a subscription to the commands exactly until it is closed. -/
  held : ∀ turns s, (σ₀.run turns).watch = .mounted s →
    (s.source.isSome = true ↔ s.phase ≠ .closed) ∧ (s.commands.isSome = true ↔ s.phase ≠ .closed)
  /-- A tick before the session is connected or after it is closed shows and changes nothing, in the
  session and in the hub. -/
  idle : ∀ turns s, (σ₀.run turns).watch = .mounted s →
    s.phase = .mounted ∨ s.phase = .closed →
      (σ₀.run turns).step (.act .tick) = ([], σ₀.run turns)
  /-- Any other tick is counted once, and leaves the session ticking or closes it. -/
  ticking : ∀ turns s s', (σ₀.run turns).watch = .mounted s →
    s.phase = .connected ∨ s.phase = .ticking →
    ((σ₀.run turns).step (.act .tick)).2.watch = .mounted s' →
      s'.ticks = s.ticks + 1 ∧ (s'.phase = .ticking ∨ s'.phase = .closed)
  /-- Nothing else is counted. -/
  ticks : ∀ turns s, (σ₀.run turns).watch = .mounted s → s.ticks = σ₀.connectedTicks turns
  /-- An open session tells the listeners one event for each that its user causes. -/
  tells : ∀ turns s event, (σ₀.run turns).watch = .mounted s → s.phase ≠ .closed →
    s.forward event (σ₀.run turns).hub = (σ₀.run turns).hub.publishEvent event ∧
      ((σ₀.run turns).step (.act (.forward event))).2 =
        ⟨.mounted s, ((σ₀.run turns).hub.publishEvent event).2⟩
  /-- So each of them has it queued once, if there is room. -/
  heard : σ₀.hub.Valid → ∀ turns s event, (σ₀.run turns).watch = .mounted s → s.phase ≠ .closed →
    (σ₀.run turns).hub.events.Offered event
      ((σ₀.run turns).step (.act (.forward event))).2.hub.events
  /-- A closed one tells none. -/
  silent : ∀ turns s event, (σ₀.run turns).watch = .mounted s → s.phase = .closed →
    s.forward event (σ₀.run turns).hub = (.none, (σ₀.run turns).hub) ∧
      ((σ₀.run turns).step (.act (.forward event))).2 = σ₀.run turns
  /-- A closed session has no markers to show at first. -/
  blank : ∀ turns s hub, (σ₀.run turns).watch = .mounted s → s.phase = .closed →
    s.initialMarkers hub = []
  /-- The session goes away only in a tick that takes effect, if its fleet fails. -/
  lasts : ∀ turns t s, (σ₀.run turns).watch = .mounted s →
    (∃ s', ((σ₀.run turns).step t).2.watch = .mounted s') ∨
      (t = .act .tick ∧ s.isConnected = true ∧ s.Fails)

/-- Over every source, on every hub and whatever happens to them, a session goes through its stages
once, holds what it holds until it is closed, and is closed once. -/
theorem session_lives_once (source : Source ρ) (hub : Hub) : (onMount source hub).LifeCycle := by
  have hmounted := Session.coherent_mount source hub
  have hleads : ∀ {turns s}, ((onMount source hub).run turns).watch = .mounted s →
      (onMount source hub).Leads turns (Session.mount source hub).1 s := fun hs =>
    leads_of_coherent rfl hmounted hs
  have hviewed : ∀ {turns s}, ((onMount source hub).run turns).watch = .mounted s →
      (onMount source hub).run turns = ⟨.mounted s, ((onMount source hub).run turns).hub⟩ :=
    fun hs => by rw [← hs]
  constructor
  case phase =>
    intro turns t s s' hs hs'
    exact (advances_of_step hs (hleads hs).coherent hs').phase
  case connects =>
    intro turns s hs hmounted
    have hconnect : s.connect = { s with phase := .connected } := if_pos hmounted
    rw [← hconnect, step, own, hs]
    rfl
  case later =>
    intro turns more s s' hs hs'
    rw [run_append] at hs'
    exact (leads_of_coherent hs (hleads hs).coherent hs').phase
  case reason =>
    intro turns s hs
    exact ⟨(hleads hs).coherent.reason, (hleads hs).closeReason⟩
  case final =>
    intro turns more s hs hclosed
    rw [run_append]
    exact watch_run_of_closed hs (hleads hs).coherent hclosed more
  case held =>
    intro turns s hs
    have hintact := (hleads hs).coherent.intact
    exact ⟨Option.isSome_iff_ne_none.trans (not_congr hintact.source),
      Option.isSome_iff_ne_none.trans (not_congr hintact.commands)⟩
  case idle =>
    intro turns s hs hphase
    rw [hviewed hs]
    exact step_of_not_connected (Session.not_isConnected_of_or hphase) _
  case ticking =>
    intro turns s s' hs hphase hs'
    have hticks : ((onMount source hub).run turns).ticks (.act .tick) = s.isConnected := by
      rw [Viewing.ticks, hs]
    have hadvances := advances_of_step hs (hleads hs).coherent hs'
    rw [Session.isConnected_iff.2 hphase] at hticks
    refine ⟨?_, hadvances.ticking hticks⟩
    rw [hadvances.ticks, hticks]
    rfl
  case ticks =>
    intro turns s hs
    rw [(hleads hs).ticks]
    exact Nat.zero_add _
  case tells =>
    intro turns s event hs hopen
    have hforward : s.forward event ((onMount source hub).run turns).hub =
        ((onMount source hub).run turns).hub.publishEvent event := if_neg hopen
    exact ⟨hforward, by rw [step_forward hs, hforward]⟩
  case heard =>
    intro hv turns s event hs hopen
    have hintact : (onMount source hub).watch.Intact := hmounted.intact
    have hvalid := valid_run hintact hv turns
    have hforward : s.forward event ((onMount source hub).run turns).hub =
        ((onMount source hub).run turns).hub.publishEvent event := if_neg hopen
    rw [step_forward hs, hforward]
    exact hvalid.events.offered_publish event
  case silent =>
    intro turns s event hs hclosed
    have hforward : s.forward event ((onMount source hub).run turns).hub =
        (.none, ((onMount source hub).run turns).hub) := if_pos hclosed
    exact ⟨hforward, by rw [step_forward hs, hforward, ← hviewed hs]⟩
  case blank =>
    intro turns s hub' hs hclosed
    rw [Session.initialMarkers, (hleads hs).coherent.intact.source.2 hclosed]
  case lasts =>
    intro turns t s hs
    obtain ⟨s₁, hs₁, -⟩ | ⟨-, hfails⟩ := step_of_coherent hs (hleads hs).coherent t
    · exact .inl ⟨s₁, hs₁⟩
    · exact .inr hfails

-- The session is closed twice, and connected in between.
example : ((onMount (.shared 7 : Source Tape) (.create 1)).run [.act .connect,
    .act (.close .disconnected), .act .connect, .act (.close .evicted)]).closeReason? =
      some .disconnected := rfl

end Viewing

end LiveMap
