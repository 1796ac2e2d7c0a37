import LiveMap.Proofs.Fleet.Replay
import LiveMap.Proofs.Session.Backlog
import LiveMap.Random.Tape

/-!
# A view of a private fleet shows its fleet

A view that has a fleet of its own keeps it until its session is closed. Each tick that takes effect
picks one operation, and shows it before any command. So what the view shows of markers are the
operations that its fleet picks, one for each tick (`Rides.picks_run`), and what is known of picks
says what a client shows: its first look, with all that was shown since, is what a first look would
be now.

A tick that finds the queue of commands empty and cut off closes the session, and shows its
operation all the same. Nothing else that a tick does closes it, and no tick fails if the tuning is
legal.

Main statement: `simulated_view_replays_fleet`, for every fleet that can be made, and whatever
happens to the view and the hub.
-/

namespace LiveMap

variable {ρ : Type}

/-- Commands do not matter to what is shown of markers. -/
theorem Chart.drawAll_filter (c : Chart) (deltas : List ViewDelta) :
    c.drawAll (deltas.filter (!·.isCommand)) = c.drawAll deltas := by
  induction deltas generalizing c with
  | nil => rfl
  | cons d rest ih => cases d <;> exact ih _

/-- Where a view gets its markers from, until it is closed. -/
def Watch.source? : Watch ρ → Option (Source ρ)
  | absent => none
  | attached source => some source
  | mounted s => s.source

namespace Session

variable [FleetDraws ρ]

/-- Asking a private fleet picks an operation, and does nothing to the hub. -/
theorem pollSource_of_nextOp {s : Session ρ} {g g' : Generator ρ} {op : MarkerOp}
    (hs : s.source = some (.simulated g)) (hnext : g.nextOp = .ok (op, g')) (hub : Hub) :
    s.ticked.pollSource hub =
      .ok (some op, false, { s.ticked with source := some (.simulated g') }, hub) := by
  have hticked : s.ticked.source = some (.simulated g) := hs
  rw [pollSource, hticked]
  exact bind_eq_ok_of (bind_eq_ok_of hnext rfl) rfl

/-- A tick of a connected session with a private fleet fails if the fleet does. -/
theorem tick_of_fault {s : Session ρ} {g : Generator ρ} {fault : Fault}
    (hc : s.isConnected = true) (hs : s.source = some (.simulated g))
    (hfails : g.nextOp = .error fault) (hub : Hub) : s.tick hub = .error fault := by
  have hticked : s.ticked.source = some (.simulated g) := hs
  have hpoll : s.ticked.pollSource hub = .error fault := by
    rw [pollSource, hticked]
    exact bind_eq_error_of (bind_eq_error_of hfails)
  rw [tick, if_pos hc]
  exact bind_eq_error_of hpoll

/-- All that a tick does to a connected session with a private fleet, if the fleet picks an
operation. It shows the operation, then a command if there is one. The session stays open with its
fleet, or it is closed because its commands are at their end. -/
theorem exists_tick_of_nextOp {s : Session ρ} {g g' : Generator ρ} {op : MarkerOp}
    (hc : s.isConnected = true) (hs : s.source = some (.simulated g))
    (hnext : g.nextOp = .ok (op, g')) (hub : Hub) : ∃ (command : Option MapCommand) (s' : Session ρ)
      (hub' : Hub), s.tick hub = .ok (.ofOp op :: (command.map .command).toList, s', hub') ∧
      (s.commands.any hub.commands.findsEnd = false ∧
          s' = { s.ticked with source := some (.simulated g') } ∨
        s.commands.any hub.commands.findsEnd = true ∧ s' = s.ticked.closed .evicted) := by
  have hpoll := pollSource_of_nextOp hs hnext hub
  obtain ⟨⟨deltas, s', hub'⟩, htick⟩ := exists_tick_of_poll ⟨_, hpoll⟩
  obtain ⟨hnot, -⟩ | ⟨-, op', ended, s₁, hub₁, hpoll', hdeltas, hleft⟩ := tick_cases htick
  · rw [hc] at hnot
    cases hnot
  rw [hpoll] at hpoll'
  cases hpoll'
  rw [pollCommands_eq] at hdeltas hleft
  refine ⟨_, s', hub', by rw [htick, hdeltas]; rfl, ?_⟩
  cases hend : s.ticked.commands.any hub.commands.findsEnd with
  | false =>
    have hstays := hleft.trans (if_neg (by simpa using hend))
    exact Or.inl ⟨hend, (Prod.mk.inj hstays).1⟩
  | true =>
    have hcloses := hleft.trans (if_pos (by simpa using hend))
    rw [close_eq SessionPhase.noConfusion] at hcloses
    exact Or.inr ⟨hend, (Prod.mk.inj hcloses).1⟩

end Session

namespace Viewing

/-- The first look: the markers that a view shows at first, or would show if it were looked at for
the first time now. -/
def markers (σ : Viewing ρ) : List (Marker Float) :=
  match σ.watch with
  | .absent => []
  | .attached source => source.snapshot σ.hub
  | .mounted s => s.initialMarkers σ.hub

/-- Whether the view is there and not closed. -/
def isOpen (σ : Viewing ρ) : Bool :=
  match σ.watch with
  | .absent => false
  | .attached _ => true
  | .mounted s => s.phase ≠ .closed

/-- A view that has just got a private fleet. -/
def simulate (fleet : Generator ρ) (hub : Hub) : Viewing ρ := ⟨.attached (.simulated fleet), hub⟩

/-- What holds of a view of a private fleet at any moment. -/
structure Rides (σ : Viewing ρ) : Prop where
  /-- The view is tended. -/
  tended : σ.Tended
  /-- The source, as long as there is one, is a private fleet. -/
  simulated : ∀ source, σ.watch.source? = some source → ∃ g, source = .simulated g

/-- A view that has just got a private fleet is one. -/
theorem rides_simulate {hub : Hub} (hv : hub.Valid) (fleet : Generator ρ) :
    (simulate fleet hub).Rides where
  tended := ⟨hv, trivial, fun l id hid => (by cases l <;> cases hid)⟩
  simulated source hsource := by
    cases hsource
    exact ⟨fleet, rfl⟩

/-- The first look at a view of a private fleet is the snapshot of the fleet. -/
theorem markers_eq_snapshot {σ : Viewing ρ} {g : Generator ρ}
    (hs : σ.watch.source? = some (.simulated g)) : σ.markers = g.snapshot := by
  obtain ⟨watch, hub⟩ := σ
  cases watch with
  | absent => cases hs
  | attached source =>
    cases hs
    rfl
  | mounted s =>
    have hsource : s.source = some (.simulated g) := hs
    show s.initialMarkers hub = g.snapshot
    unfold Session.initialMarkers
    rw [hsource]
    rfl

/-- A view is open as long as it has a source. -/
theorem Tended.isOpen_iff {σ : Viewing ρ} (h : σ.Tended) :
    σ.isOpen = true ↔ σ.watch.source? ≠ none := by
  obtain ⟨watch, hub⟩ := σ
  cases watch with
  | absent => exact iff_of_false Bool.false_ne_true (fun hn => hn rfl)
  | attached source => exact iff_of_true rfl (Option.some_ne_none source)
  | mounted s =>
    have hi : s.Intact := h.intact
    exact decide_eq_true_iff.trans (not_congr hi.source).symm

/-- A closed view is not open. -/
theorem isOpen_of_isClosed {σ : Viewing ρ} (hc : σ.isClosed = true) : σ.isOpen = false := by
  obtain ⟨watch, hub⟩ := σ
  cases watch with
  | absent | attached source => cases hc
  | mounted s => exact decide_eq_false fun hopen => hopen (of_decide_eq_true hc)

/-- A closed view has no source. -/
theorem Tended.source?_of_closed {σ : Viewing ρ} (h : σ.Tended) (hc : σ.isClosed = true) :
    σ.watch.source? = none := by
  by_contra hsome
  rw [← Ne, ← h.isOpen_iff, isOpen_of_isClosed hc] at hsome
  cases hsome

/-- An open view of a private fleet has its fleet. -/
theorem Rides.exists_fleet {σ : Viewing ρ} (h : σ.Rides) (hopen : σ.isOpen = true) :
    ∃ g, σ.watch.source? = some (.simulated g) := by
  obtain ⟨source, hsource⟩ := Option.ne_none_iff_exists'.1 (h.tended.isOpen_iff.1 hopen)
  obtain ⟨g, rfl⟩ := h.simulated source hsource
  exact ⟨g, hsource⟩

/-- Only a tick is a tick that takes effect. -/
theorem ticks_eq {σ : Viewing ρ} {t : Turn} (ht : σ.ticks t = true) : t = .act .tick := by
  cases t with
  | mount | other a => cases ht
  | act t =>
    cases t with
    | tick => rfl
    | connect | forward event | close reason => cases ht

variable [FleetDraws ρ]

/-- What a turn can be to a view of a private fleet. -/
inductive Follows (σ : Viewing ρ) (t : Turn) : Prop where
  /-- The view has no fleet afterwards. -/
  | gone (after : (σ.step t).2.watch.source? = none)
  /-- The view keeps its fleet, which picks an operation if the turn is a tick that takes effect.
  The view shows what was picked. -/
  | picks {g g' : Generator ρ} {ops : List MarkerOp} (before : σ.watch.source? = some (.simulated g))
      (after : (σ.step t).2.watch.source? = some (.simulated g'))
      (picked : g.picks (σ.ticks t).toNat = .ok (ops, g'))
      (shows : (σ.step t).1.filter (!·.isCommand) = ops.map .ofOp)

/-- A turn that is no tick, shows nothing and keeps the source. -/
theorem Rides.follows_of_same {σ : Viewing ρ} (h : σ.Rides) {t : Turn} (ht : σ.ticks t = false)
    (hshows : (σ.step t).1 = []) (hsame : (σ.step t).2.watch.source? = σ.watch.source?) :
    σ.Follows t := by
  cases hs : σ.watch.source? with
  | none => exact .gone (hsame.trans hs)
  | some source =>
    obtain ⟨g, rfl⟩ := h.simulated source hs
    have hpicked : g.picks (σ.ticks t).toNat = .ok ([], g) := by
      rw [ht]
      rfl
    refine .picks hs (hsame.trans hs) hpicked ?_
    rw [hshows]
    rfl

/-- A tick that takes effect: the fleet fails, and the view goes away; or the fleet picks an
operation, and this is what the view shows of markers. The view stays open unless its queue of
commands is empty and cut off. -/
theorem Rides.tick_cases {σ : Viewing ρ} (h : σ.Rides) (ht : σ.ticks (.act .tick) = true) :
    ∃ g, σ.watch.source? = some (.simulated g) ∧
      ((∃ fault, g.nextOp = .error fault ∧ (σ.step (.act .tick)).2.watch = .absent) ∨
        ∃ op g', g.nextOp = .ok (op, g') ∧
          (σ.step (.act .tick)).1.filter (!·.isCommand) = [.ofOp op] ∧
          (σ.isExhausted .commands = false ∧
              (σ.step (.act .tick)).2.watch.source? = some (.simulated g') ∨
            σ.isExhausted .commands = true ∧ (σ.step (.act .tick)).2.isClosed = true)) := by
  obtain ⟨watch, hub⟩ := σ
  cases watch with
  | absent | attached source => cases ht
  | mounted s =>
    have hc : s.isConnected = true := ht
    have hopen : (⟨.mounted s, hub⟩ : Viewing ρ).isOpen = true :=
      decide_eq_true (Session.phase_ne_closed_of_isConnected hc)
    obtain ⟨g, hs⟩ := h.exists_fleet hopen
    refine ⟨g, hs, ?_⟩
    cases hnext : g.nextOp with
    | error fault =>
      have hturn : s.turn hub .tick = .error fault := Session.tick_of_fault hc hs hnext hub
      refine Or.inl ⟨fault, rfl, ?_⟩
      rw [step, own, Watch.turn, hturn]
    | ok picked =>
      obtain ⟨op, g'⟩ := picked
      obtain ⟨command, s', hub', htick, hleft⟩ := Session.exists_tick_of_nextOp hc hs hnext hub
      have hturn : s.turn hub .tick = .ok (_, s', hub') := htick
      have hstep : (⟨.mounted s, hub⟩ : Viewing ρ).step (.act .tick) =
          (.ofOp op :: (command.map .command).toList, ⟨.mounted s', hub'⟩) := by
        rw [step, own, Watch.turn, hturn]
      have hexhausted : s.commands.any hub.commands.findsEnd =
          (⟨.mounted s, hub⟩ : Viewing ρ).isExhausted .commands :=
        h.tended.hub.commands.any_findsEnd_eq (h.tended.held .commands)
      rw [hexhausted] at hleft
      refine Or.inr ⟨op, g', rfl, ?_, ?_⟩
      · rw [hstep]
        cases op <;> cases command <;> rfl
      · rw [hstep]
        rcases hleft with ⟨hnot, rfl⟩ | ⟨hend, rfl⟩
        · exact Or.inl ⟨hnot, rfl⟩
        · exact Or.inr ⟨hend, rfl⟩

/-- What happens to a session is one of these to a view of a private fleet. -/
theorem Rides.follows_act {σ : Viewing ρ} (h : σ.Rides) (t : Session.Turn) :
    σ.Follows (.act t) := by
  cases ht : σ.ticks (.act t) with
  | true =>
    cases ticks_eq ht
    obtain ⟨g, hs, ⟨fault, -, habsent⟩ | ⟨op, g', hnext, hshows, ⟨-, hs'⟩ | ⟨-, hclosed⟩⟩⟩ :=
      h.tick_cases ht
    · refine .gone ?_
      rw [habsent]
      rfl
    · have hpicked : g.picks (σ.ticks (.act .tick)).toNat = .ok ([op], g') := by
        rw [ht]
        exact bind_eq_ok_of hnext rfl
      exact .picks hs hs' hpicked hshows
    · exact .gone ((h.tended.step _).source?_of_closed hclosed)
  | false =>
    obtain ⟨watch, hub⟩ := σ
    cases watch with
    | absent | attached source => exact h.follows_of_same ht rfl rfl
    | mounted s =>
      cases t with
      | connect => exact h.follows_of_same ht rfl (Session.source_connect s)
      | forward event => exact h.follows_of_same ht rfl rfl
      | tick =>
        have hstep := step_of_not_connected ht hub
        exact h.follows_of_same ht (by rw [hstep]) (by rw [hstep])
      | close reason =>
        obtain ⟨hsame, -⟩ | hnone := Session.source_close s reason hub
        · refine h.follows_of_same ht rfl ?_
          show (s.close reason hub).1.source = s.source
          rw [hsame]
        · exact .gone hnone

/-- Every turn is one of these to a view of a private fleet. -/
theorem Rides.follows {σ : Viewing ρ} (h : σ.Rides) (t : Turn) : σ.Follows t := by
  cases t with
  | mount =>
    obtain ⟨watch, hub⟩ := σ
    cases watch <;> exact h.follows_of_same rfl rfl rfl
  | other a =>
    refine h.follows_of_same rfl rfl ?_
    rw [watch_step_other]
  | act t => exact h.follows_act t

/-- Every turn keeps a view one of a private fleet. -/
theorem Rides.step {σ : Viewing ρ} (h : σ.Rides) (t : Turn) : (σ.step t).2.Rides where
  tended := h.tended.step t
  simulated source hsource := by
    cases h.follows t with
    | gone after =>
      rw [after] at hsource
      cases hsource
    | picks _ after =>
      rw [after] at hsource
      cases hsource
      exact ⟨_, rfl⟩

/-! ## Runs -/

/-- Every run keeps a view one of a private fleet. -/
theorem Rides.run {σ : Viewing ρ} (h : σ.Rides) (turns : List Turn) : (σ.run turns).Rides := by
  induction turns generalizing σ with
  | nil => exact h
  | cons t rest ih => exact ih (h.step t)

/-- A fleet that a view has after a run is the one that it had before, after one pick for each tick
that took effect. What was shown of markers is what was picked. -/
theorem Rides.picks_run {σ : Viewing ρ} (h : σ.Rides) {turns : List Turn} {g' : Generator ρ}
    (hs' : (σ.run turns).watch.source? = some (.simulated g')) :
    ∃ g ops, σ.watch.source? = some (.simulated g) ∧
      g.picks (σ.connectedTicks turns) = .ok (ops, g') ∧
      (σ.shown turns).filter (!·.isCommand) = ops.map .ofOp := by
  induction turns generalizing σ with
  | nil => exact ⟨g', [], hs', rfl, rfl⟩
  | cons t rest ih =>
    obtain ⟨next, later, hnext, hlater, hshown⟩ := ih (h.step t) hs'
    cases h.follows t with
    | gone after =>
      rw [after] at hnext
      cases hnext
    | picks before after picked shows =>
      rw [after] at hnext
      cases hnext
      refine ⟨_, _, before, Generator.picks_add picked hlater, ?_⟩
      rw [shown, List.filter_append, shows, hshown, List.map_append]

/-- What holds of an open view of a private fleet. -/
structure Mirrors (σ : Viewing ρ) : Prop where
  /-- The first look lists an id once. -/
  distinct : (σ.markers.map Marker.id).Nodup
  /-- As long as the view stays open, the first look, with all that is shown since, is what a first
  look would be then. -/
  replays : ∀ turns, (σ.run turns).isOpen = true →
    Chart.ofMarkers (σ.run turns).markers = (Chart.ofMarkers σ.markers).drawAll (σ.shown turns)
  /-- As long as the view stays open, each tick that takes effect shows one change of a marker. -/
  counts : ∀ turns, (σ.run turns).isOpen = true →
    ((σ.shown turns).filter (!·.isCommand)).length = σ.connectedTicks turns
  /-- A tick that takes effect, unless the fleet fails: it shows one change of a marker, that of the
  operation that the fleet picks, and the client shows the fleet as it is then. The view stays open
  unless its queue of commands is empty and cut off. -/
  ticking : σ.ticks (.act .tick) = true → (σ.step (.act .tick)).2.watch ≠ .absent →
    ∃ g op g', σ.watch.source? = some (.simulated g) ∧ g.nextOp = .ok (op, g') ∧
      (σ.step (.act .tick)).1.filter (!·.isCommand) = [.ofOp op] ∧
      Chart.ofMarkers g'.snapshot =
        (Chart.ofMarkers σ.markers).drawAll (σ.step (.act .tick)).1 ∧
      (σ.step (.act .tick)).2.isOpen = !σ.isExhausted .commands

/-- A view of a valid fleet mirrors it. -/
theorem Rides.mirrors {σ : Viewing ρ} (h : σ.Rides) {g : Generator ρ}
    (hs : σ.watch.source? = some (.simulated g)) (hv : g.Valid) : σ.Mirrors := by
  have hpicked : ∀ turns, (σ.run turns).isOpen = true → ∃ ops g',
      (σ.run turns).markers = g'.snapshot ∧
        Generator.Replays (σ.connectedTicks turns) ops g g' ∧
        (σ.shown turns).filter (!·.isCommand) = ops.map .ofOp := by
    intro turns hopen
    obtain ⟨g', hs'⟩ := (h.run turns).exists_fleet hopen
    obtain ⟨own, ops, hown, hpicks, hshown⟩ := h.picks_run hs'
    rw [hs] at hown
    cases hown
    exact ⟨ops, g', markers_eq_snapshot hs', (hv.replays_picks hpicks).2, hshown⟩
  constructor
  case distinct =>
    rw [markers_eq_snapshot hs]
    exact hv.nodup_snapshot
  case replays =>
    intro turns hopen
    obtain ⟨ops, g', hmarkers, hreplays, hshown⟩ := hpicked turns hopen
    rw [hmarkers, hreplays.snapshot, ← Chart.drawAll_filter _ (σ.shown turns), hshown,
      Chart.drawAll_map_ofOp, markers_eq_snapshot hs]
  case counts =>
    intro turns hopen
    obtain ⟨ops, g', -, hreplays, hshown⟩ := hpicked turns hopen
    rw [hshown, List.length_map, hreplays.length]
  case ticking =>
    intro ht hthere
    obtain ⟨own, hown, ⟨fault, -, habsent⟩ | ⟨op, g', hnext, hshows, hleft⟩⟩ := h.tick_cases ht
    · exact absurd habsent hthere
    rw [hs] at hown
    cases hown
    refine ⟨g, op, g', hs, hnext, hshows, ?_, ?_⟩
    · rw [← Chart.drawAll_filter, hshows, markers_eq_snapshot hs, hv.ofMarkers_snapshot,
        (hv.nextOp hnext).ofMarkers_snapshot, (hv.chart_nextOp hnext).2]
      exact (Chart.draw_ofOp g.chart op).symm
    · obtain ⟨hnot, hs'⟩ | ⟨hend, hclosed⟩ := hleft
      · rw [hnot]
        refine (h.tended.step _).isOpen_iff.2 ?_
        rw [hs']
        exact Option.some_ne_none _
      · rw [hend]
        exact isOpen_of_isClosed hclosed

/-- A turn makes a view go away only if its fleet fails. -/
theorem Rides.watch_step_ne_absent {σ : Viewing ρ} (h : σ.Rides) (hthere : σ.watch ≠ .absent)
    (hpicks : ∀ g, σ.watch.source? = some (.simulated g) → ∃ r, g.nextOp = .ok r) (t : Turn) :
    (σ.step t).2.watch ≠ .absent := by
  cases ht : σ.ticks t with
  | true =>
    cases ticks_eq ht
    obtain ⟨g, hs, ⟨fault, hfails, -⟩ | ⟨op, g', -, -, ⟨-, hs'⟩ | ⟨-, hclosed⟩⟩⟩ := h.tick_cases ht
    · obtain ⟨r, hnext⟩ := hpicks g hs
      rw [hfails] at hnext
      cases hnext
    · intro habsent
      rw [habsent] at hs'
      cases hs'
    · intro habsent
      rw [isClosed, habsent] at hclosed
      cases hclosed
  | false =>
    cases t with
    | other a =>
      rw [watch_step_other]
      exact hthere
    | mount =>
      obtain ⟨watch, hub⟩ := σ
      cases watch with
      | absent => exact absurd rfl hthere
      | attached source | mounted s => rintro ⟨⟩
    | act t =>
      obtain ⟨watch, hub⟩ := σ
      cases watch with
      | absent => exact absurd rfl hthere
      | attached source => rintro ⟨⟩
      | mounted s =>
        cases t with
        | connect | forward event | close reason => rintro ⟨⟩
        | tick =>
          rw [step_of_not_connected ht]
          rintro ⟨⟩

/-- A view of a sound fleet does not go away. -/
theorem Rides.watch_run_ne_absent [LawfulDraws ρ] {σ : Viewing ρ} (h : σ.Rides)
    (hthere : σ.watch ≠ .absent)
    (hsound : ∀ g, σ.watch.source? = some (.simulated g) → g.Sound) (turns : List Turn) :
    (σ.run turns).watch ≠ .absent := by
  induction turns generalizing σ with
  | nil => exact hthere
  | cons t rest ih =>
    refine ih (h.step t) (h.watch_step_ne_absent hthere (fun g hs => ?_) t) fun g' hs' => ?_
    · obtain ⟨op, g', hnext⟩ := (hsound g hs).exists_nextOp
      exact ⟨_, hnext⟩
    · cases h.follows t with
      | gone after =>
        rw [after] at hs'
        cases hs'
      | picks before after picked =>
        rw [after] at hs'
        cases hs'
        obtain ⟨ops, last, hpicks, hlast⟩ := (hsound _ before).exists_picks (σ.ticks t).toNat
        rw [picked] at hpicks
        cases hpicks
        exact hlast

/-- For every fleet that can be made, all draws, every hub in use, and whatever happens to the view
and the hub. The operations of any number of picks turn the snapshot before them into the snapshot
after them. A view of the fleet mirrors it for as long as it is open. And with a legal tuning and
lawful draws no pick fails, so the view never goes away by itself. -/
theorem simulated_view_replays_fleet {g₀ : Generator ρ} (made : g₀.Reachable) (capacity : Nat)
    (history : List Hub.Action) :
    (∀ n ops g, g₀.picks n = .ok (ops, g) → Generator.Replays n ops g₀ g) ∧
    (∀ before, ((simulate g₀ ((Hub.create capacity).run history)).run before).isOpen = true →
      ((simulate g₀ ((Hub.create capacity).run history)).run before).Mirrors) ∧
    (LawfulDraws ρ → g₀.tuning.Legal → (∀ n, ∃ r, g₀.picks n = .ok r) ∧
      ∀ turns, ((simulate g₀ ((Hub.create capacity).run history)).run turns).watch ≠ .absent) := by
  have hv : g₀.Valid := made.valid
  have hrides : (simulate g₀ ((Hub.create capacity).run history)).Rides :=
    rides_simulate ((Hub.valid_create capacity).run history) g₀
  refine ⟨fun n ops g h => (hv.replays_picks h).2, fun before hopen => ?_, fun _ ht => ?_⟩
  · obtain ⟨g, hs⟩ := (hrides.run before).exists_fleet hopen
    obtain ⟨own, ops, hown, hpicks, -⟩ := hrides.picks_run hs
    cases hown
    exact (hrides.run before).mirrors hs (hv.replays_picks hpicks).1
  · have hsound : g₀.Sound := ⟨hv, ht⟩
    refine ⟨fun n => ?_,
      hrides.watch_run_ne_absent (fun habsent => (by cases habsent)) fun g hs => ?_⟩
    · obtain ⟨ops, g, hpicks, -⟩ := hsound.exists_picks n
      exact ⟨_, hpicks⟩
    · cases hs
      exact hsound

/-- All three markers of a fleet have drawn the same id, so there is one of them. In two ticks of
its view two more appear under this id; the view is still open, and mirrors the fleet. -/
theorem simulated_view_replays_fleet_of_one_id : ∃ g₀ : Generator Tape,
    Generator.create 3 .standard (Tape.ofList [0xC0000011]) = .ok g₀ ∧ g₀.size = 1 ∧
      let σ := (simulate g₀ ((Hub.create 4).run [])).run
        [.mount, .act .connect, .act .tick, .act .tick]
      σ.markers.map Marker.name = ["Alpha-05"] ∧ σ.Mirrors := by
  have hfacts : ((Generator.create 3 .standard (Tape.ofList [0xC0000011])).toOption.map fun g =>
      let σ := (simulate g ((Hub.create 4).run [])).run
        [.mount, .act .connect, .act .tick, .act .tick]
      (g.size, σ.markers.map Marker.name, σ.isOpen)) = some (1, ["Alpha-05"], true) := by
    decide +kernel
  obtain ⟨g₀, hmade, hg⟩ := exists_of_map_toOption_eq_some hfacts
  injection hg with hsize hrest
  injection hrest with hname hopen
  exact ⟨g₀, hmade, hsize, hname,
    (simulated_view_replays_fleet (.create hmade) 4 []).2.1 _ hopen⟩

end Viewing

end LiveMap
