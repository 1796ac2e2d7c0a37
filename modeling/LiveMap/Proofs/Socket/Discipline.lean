import LiveMap.Proofs.Session.Turn
import LiveMap.Server

/-!
# What a view socket takes from its browser

A view socket is on a hub that it shares with everybody. A turn of it is a frame of the browser, or
the moment at which its timer goes off, or something that others do to the hub. When the timer first
goes off the session is connected, and from then on it ticks.

The frames alone say how long the browser is put up with (`Tolerable`): up to ten texts that cannot
be read, counted from the opening of the socket, and no frame but texts and signs of life. As long
as that holds the socket stands for a user who does what the readable texts report (`heard`), and
after that for nobody. Main statement: `view_socket_is_disciplined`. It is an induction on the
turns, and what it carries is `Account`, with the number of unreadable texts and an intact, open
session (`Kept`) while the connection goes on.
-/

namespace LiveMap

variable {ρ : Type}

/-! ## Frames -/

/-- What a user did, if an event tells of that. -/
def MapEvent.interaction? : MapEvent → Option Interaction
  | markerOp _ => none
  | marker e => some (.marker e)
  | map e => some (.map e)

/-- A payload of a known kind tells what a user did. -/
theorem BrowserFrame.exists_interaction_of_payload? {tag : FrameTag} {t : Json.Tree Unit}
    {event : MapEvent} (h : payload? tag t = some event) :
    ∃ interaction, event.interaction? = some interaction ∧ interaction.toEvent = event := by
  cases tag with
  | markerEvent =>
    obtain ⟨e, -, rfl⟩ := Option.map_eq_some_iff.1 h
    exact ⟨.marker e, rfl, rfl⟩
  | mapEvent =>
    obtain ⟨e, -, rfl⟩ := Option.map_eq_some_iff.1 h
    exact ⟨.map e, rfl, rfl⟩

/-- A readable frame tells what a user did. -/
theorem BrowserFrame.exists_interaction {text : String} {event : MapEvent}
    (h : parse? text = some event) :
    ∃ interaction, event.interaction? = some interaction ∧ interaction.toEvent = event := by
  obtain ⟨t, -, h⟩ := Option.bind_eq_some_iff.1 h
  unfold ofTree? at h
  split at h
  · obtain ⟨tag, -, h⟩ := Option.bind_eq_some_iff.1 h
    exact exists_interaction_of_payload? h
  · split at h
    · split at h
      · obtain ⟨tag, -, h⟩ := Option.bind_eq_some_iff.1 h
        exact exists_interaction_of_payload? h
      · obtain ⟨_, -, h⟩ := Option.bind_eq_some_iff.1 h
        obtain ⟨tag, -, h⟩ := Option.bind_eq_some_iff.1 h
        exact exists_interaction_of_payload? h
      · cases h
    · cases h
  · cases h

namespace Incoming

/-- What the user did, if the frame is a text that can be read. -/
def interaction? : Incoming → Option Interaction
  | text content => (BrowserFrame.parse? content).bind MapEvent.interaction?
  | binary | ping | pong | close _ | lost => none

/-- Whether the frame is a text that cannot be read. -/
def isUnreadable : Incoming → Bool
  | text content => (BrowserFrame.parse? content).isNone
  | binary | ping | pong | close _ | lost => false

/-- Whether the frame is a text or a sign of life. -/
def isTaken : Incoming → Bool
  | text _ | ping | pong => true
  | binary | close _ | lost => false

/-- How the server closes a view socket that ends with this frame. -/
def parting? : Incoming → Option CloseFrame
  | text _ => some .invalidPayloads
  | binary => some .unsupported
  | ping | pong | close _ | lost => none

end Incoming

/-- The frames that a browser may send without being cut off: texts and signs of life, and among
them up to ten texts that cannot be read. -/
structure Tolerable (frames : List Incoming) : Prop where
  /-- All are texts or signs of life. -/
  taken : ∀ f ∈ frames, f.isTaken = true
  /-- Few of them cannot be read. -/
  unreadable : frames.countP Incoming.isUnreadable ≤ 10

/-- The number of unreadable texts with one more frame. -/
theorem countP_isUnreadable_concat (frames : List Incoming) (f : Incoming) :
    (frames ++ [f]).countP Incoming.isUnreadable =
      frames.countP Incoming.isUnreadable + f.isUnreadable.toNat := by
  rw [List.countP_append, List.countP_singleton]
  cases f.isUnreadable <;> rfl

/-- One more frame is tolerable if it is of the right kind and not an unreadable text too many. -/
theorem tolerable_append_singleton {frames : List Incoming} (h : Tolerable frames) (f : Incoming) :
    Tolerable (frames ++ [f]) ↔
      f.isTaken = true ∧ frames.countP Incoming.isUnreadable + f.isUnreadable.toNat ≤ 10 := by
  have hcount := countP_isUnreadable_concat frames f
  constructor
  · intro hmore
    exact ⟨hmore.taken f (by simp), hcount ▸ hmore.unreadable⟩
  · rintro ⟨htaken, hfew⟩
    refine ⟨fun g hg => ?_, hcount ▸ hfew⟩
    obtain hg | hg := List.mem_append.1 hg
    · exact h.taken g hg
    · rw [List.mem_singleton.1 hg]
      exact htaken

/-- What was tolerable with more frames was tolerable before. -/
theorem Tolerable.of_append {frames more : List Incoming} (h : Tolerable (frames ++ more)) :
    Tolerable frames where
  taken f hf := h.taken f (List.mem_append_left more hf)
  unreadable := by
    have hfew := h.unreadable
    rw [List.countP_append] at hfew
    exact Nat.le_trans (Nat.le_add_right _ _) hfew

/-! ## The hub as the listeners see it -/

/-- Two hubs that nobody can tell apart by the markers or by listening to the events. -/
structure Hub.Alike (hub hub' : Hub) : Prop where
  /-- The markers are the same. -/
  registry : hub.registry = hub'.registry
  /-- The events are the same, for every listener. -/
  events : hub.events = hub'.events

namespace Hub

theorem Alike.refl (hub : Hub) : hub.Alike hub := ⟨rfl, rfl⟩

theorem Alike.trans {first second third : Hub} (h₁ : first.Alike second)
    (h₂ : second.Alike third) : first.Alike third :=
  ⟨h₁.registry.trans h₂.registry, h₁.events.trans h₂.events⟩

/-- The same action leaves two such hubs alike. -/
theorem Alike.act {hub hub' : Hub} (h : hub.Alike hub') (a : Action) :
    (hub.act a).Alike (hub'.act a) where
  registry := by rw [registry_act, registry_act, h.registry]
  events := by
    have hon : onEvents hub a = onEvents hub' a := by
      unfold onEvents
      cases a with
      | mutate mutation => dsimp only; rw [perform_fst, perform_fst, h.registry]
      | issue | interact | listenOps | listenCommands | listenEvents => rfl
    rw [events_act, events_act, h.events, hon]

/-- The same actions leave two such hubs alike. -/
theorem Alike.run {hub hub' : Hub} (h : hub.Alike hub') (actions : List Action) :
    (hub.run actions).Alike (hub'.run actions) := by
  induction actions generalizing hub hub' with
  | nil => exact h
  | cons a rest ih => exact ih (h.act a)

end Hub

namespace Session

/-- Closing an intact session does nothing to the markers and the events. -/
theorem Intact.alike_close {s : Session ρ} (hi : s.Intact) (reason : CloseReason) (hub : Hub) :
    (s.close reason hub).2.Alike hub := by
  rw [hi.hub_close]
  exact ⟨rfl, rfl⟩

/-- A tick of an intact session does nothing to the markers and the events. -/
theorem Intact.alike_tick [FleetDraws ρ] {s s' : Session ρ} {hub hub' : Hub}
    {deltas : List ViewDelta} (hi : s.Intact) (h : s.tick hub = .ok (deltas, s', hub')) :
    hub'.Alike hub where
  registry := (spares_tick h).registry
  events := by
    obtain ⟨-, hmoves⟩ := hi.moves_tick h
    have hnothing : does s s' .tick .events = [] := by
      unfold does
      dsimp only
      split
      · split <;> rfl
      · rfl
    have hlane := hmoves.lane .events
    rw [hnothing] at hlane
    exact hlane

/-- Establishing the transport keeps an open session intact and open. -/
theorem Intact.connect {s : Session ρ} (hi : s.Intact) (hopen : s.phase ≠ .closed) :
    s.connect.Intact ∧ s.connect.phase ≠ .closed := by
  unfold Session.connect
  split
  · exact ⟨⟨⟨fun hn => absurd (hi.source.1 hn) hopen, fun hn => (by cases hn)⟩,
      ⟨fun hn => absurd (hi.commands.1 hn) hopen, fun hn => (by cases hn)⟩⟩,
      SessionPhase.noConfusion⟩
  · exact ⟨hi, hopen⟩

/-- A new session is intact and open. -/
theorem intact_mount (source : Source ρ) (hub : Hub) :
    (mount source hub).1.Intact ∧ (mount source hub).1.phase ≠ .closed :=
  ⟨⟨⟨fun hn => (by cases hn), fun hn => (by cases hn)⟩,
    ⟨fun hn => (by cases hn), fun hn => (by cases hn)⟩⟩, SessionPhase.noConfusion⟩

end Session

/-! ## Sockets -/

namespace ViewSocket

/-- All that a frame does to an open socket that has not seen too many unreadable texts. -/
theorem receive_eq {socket : ViewSocket ρ} (hopen : socket.session.phase ≠ .closed)
    (hfew : socket.invalid ≤ 10) (f : Incoming) (hub : Hub) :
    socket.receive f hub =
      (if f.isTaken = true ∧ socket.invalid + f.isUnreadable.toNat ≤ 10 then .stay
        else .leave f.parting?,
        { socket with invalid := socket.invalid + f.isUnreadable.toNat },
        hub.run (f.interaction?.map .interact).toList) := by
  cases f with
  | ping | pong => exact congrArg (·, _) (if_pos ⟨rfl, hfew⟩).symm
  | binary | close | lost => exact congrArg (·, _) (if_neg fun h => (by cases h.1)).symm
  | text content =>
    rw [receive, receiveText, Incoming.interaction?, Incoming.isUnreadable]
    cases hp : BrowserFrame.parse? content with
    | none =>
      dsimp only
      by_cases hmany : maxInvalid < socket.invalid + 1
      · rw [if_pos hmany]
        exact congrArg (·, _) (if_neg fun h => absurd h.2 (Nat.not_le.2 hmany)).symm
      · rw [if_neg hmany]
        exact congrArg (·, _) (if_pos ⟨rfl, Nat.le_of_not_lt hmany⟩).symm
    | some event =>
      obtain ⟨interaction, htold, rfl⟩ := BrowserFrame.exists_interaction hp
      have hforward : (socket.session.forward interaction.toEvent hub).2 =
          hub.run [.interact interaction] := by
        rw [Session.forward, if_neg hopen]
        rfl
      dsimp only
      rw [hforward, Option.bind_some, htold]
      exact congrArg (·, _) (if_pos ⟨rfl, hfew⟩).symm

variable [FleetDraws ρ]

/-- A tick fails where the session's does. -/
theorem tick_of_error {socket : ViewSocket ρ} {hub : Hub} {fault : Fault}
    (h : socket.session.tick hub = .error fault) : socket.tick hub = .error fault := by
  rw [tick, h]
  rfl

/-- A tick ends the connection exactly if it closes the session. -/
theorem tick_of_ok {socket : ViewSocket ρ} {hub hub' : Hub} {deltas : List ViewDelta}
    {session : Session ρ} (h : socket.session.tick hub = .ok (deltas, session, hub')) :
    socket.tick hub = .ok (deltas.map .delta,
      if session.phase = .closed then .leave (some .tooSlow) else .stay,
      { socket with session }, hub') := by
  rw [tick, h]
  rfl

end ViewSocket

/-- Why a view socket is over. -/
inductive Parting where
  /-- By a frame of the browser; the server closes the socket with this frame, if there is one. -/
  | frame (close : Option CloseFrame)
  /-- The session fell behind; the server closes the socket with this frame, if there is one. -/
  | evicted (close : Option CloseFrame)
  /-- The private fleet failed. -/
  | fault

/-- A view socket in use, and the hub that it shares with others. -/
structure Browsing (ρ : Type) where
  /-- The server's side of the socket. -/
  socket : ViewSocket ρ
  /-- The hub. -/
  hub : Hub
  /-- Why the connection is over, once it is. -/
  parting : Option Parting

namespace Browsing

/-- All that can happen next. -/
inductive Turn where
  /-- A frame of the browser arrives. -/
  | frame (f : Incoming)
  /-- The timer of the session goes off. -/
  | timer
  /-- Somebody else does something to the hub. -/
  | other (a : Hub.Action)

/-- A socket that has just been opened. -/
def begin (source : Source ρ) (hub : Hub) : Browsing ρ :=
  let (_, socket, hub) := ViewSocket.start source hub
  ⟨socket, hub, none⟩

/-- The connection ends, and the session with it. -/
def leave (σ : Browsing ρ) (parting : Parting) : Browsing ρ :=
  let (socket, hub) := σ.socket.finish σ.hub
  ⟨socket, hub, some parting⟩

/-- Takes a frame. -/
def onFrame (σ : Browsing ρ) (f : Incoming) : Browsing ρ :=
  let (verdict, socket, hub) := σ.socket.receive f σ.hub
  match verdict with
  | .stay => ⟨socket, hub, none⟩
  | .leave close => leave ⟨socket, hub, none⟩ (.frame close)

variable [FleetDraws ρ]

/-- Connects the session if it is not yet, and lets it tick if it is. -/
def onTimer (σ : Browsing ρ) : Browsing ρ :=
  if σ.socket.session.phase = .mounted then { σ with socket := σ.socket.connect }
  else
    match σ.socket.tick σ.hub with
    | .error _ => σ.leave .fault
    | .ok (_, .stay, socket, hub) => ⟨socket, hub, none⟩
    | .ok (_, .leave close, socket, hub) => leave ⟨socket, hub, none⟩ (.evicted close)

/-- What a turn leaves. A connection that is over takes no part in anything. -/
def step (σ : Browsing ρ) : Turn → Browsing ρ
  | .frame f => if σ.parting.isNone then σ.onFrame f else σ
  | .timer => if σ.parting.isNone then σ.onTimer else σ
  | .other a => { σ with hub := σ.hub.act a }

/-- What some turns leave. -/
def run (σ : Browsing ρ) (turns : List Turn) : Browsing ρ := turns.foldl step σ

/-! ## What is expected of the turns -/

/-- The frame that arrives in a turn. -/
def Turn.frame? : Turn → Option Incoming
  | frame f => some f
  | timer | other _ => none

/-- What happens to the hub in a turn, if somebody else does it. -/
def Turn.others? : Turn → Option Hub.Action
  | frame _ | timer => none
  | other a => some a

/-- What happens to the hub in a turn, as the listeners see it: what the user did counts too. -/
def Turn.heard? : Turn → Option Hub.Action
  | frame f => f.interaction?.map .interact
  | timer => none
  | other a => some a

/-- The frames that arrive, in order. -/
def frames (turns : List Turn) : List Incoming := turns.filterMap Turn.frame?

/-- What others do, in order. -/
def others (turns : List Turn) : List Hub.Action := turns.filterMap Turn.others?

/-- What others do and what the user did, in order. -/
def heard (turns : List Turn) : List Hub.Action := turns.filterMap Turn.heard?

/-- The connection ended in a turn, with others before and after it. -/
structure Ended (σ : Browsing ρ) (before : List Turn) (t : Turn) (after : List Turn)
    (parting : Parting) : Prop where
  /-- The connection went on until then. -/
  still : (σ.run before).parting = none
  /-- Nothing was wrong with the frames until then. -/
  tolerable : Tolerable (frames before)
  /-- Why the connection is over. -/
  parting : (σ.run (before ++ t :: after)).parting = some parting
  /-- The listeners have heard what the user did before that, and nothing of what came after. -/
  alike : (σ.run (before ++ t :: after)).hub.Alike (σ.hub.run (heard before ++ others after))

/-- What some turns of a connection have come to. -/
inductive Account (σ : Browsing ρ) : List Turn → Prop where
  /-- The connection goes on, and the listeners have heard all that the user did. -/
  | goesOn {turns : List Turn} (still : (σ.run turns).parting = none)
      (tolerable : Tolerable (frames turns))
      (alike : (σ.run turns).hub.Alike (σ.hub.run (heard turns))) : Account σ turns
  /-- The connection ended with the first frame that was not to be tolerated. -/
  | cutOff {before after : List Turn} {f : Incoming}
      (intolerable : ¬ Tolerable (frames before ++ [f]))
      (ended : σ.Ended before (.frame f) after (.frame f.parting?)) :
      Account σ (before ++ .frame f :: after)
  /-- The session ended by itself. -/
  | fellBehind {before after : List Turn} {parting : Parting}
      (why : parting = .evicted (some .tooSlow) ∨ parting = .fault)
      (ended : σ.Ended before .timer after parting) : Account σ (before ++ .timer :: after)

/-- What holds of a socket while the connection goes on. -/
structure Kept (turns : List Turn) (σ : Browsing ρ) : Prop where
  /-- The session holds what it should hold. -/
  intact : σ.socket.session.Intact
  /-- The session is open. -/
  isOpen : σ.socket.session.phase ≠ .closed
  /-- The unreadable texts have been counted. -/
  counted : σ.socket.invalid = (frames turns).countP Incoming.isUnreadable

/-! ## One turn -/

omit [FleetDraws ρ] in
/-- The end of a connection does nothing to the markers and the events. -/
theorem alike_leave {σ : Browsing ρ} (hi : σ.socket.session.Intact) (parting : Parting) :
    (σ.leave parting).hub.Alike σ.hub := hi.alike_close .disconnected σ.hub

/-- A turn of a connection that is over is somebody else's. -/
theorem step_of_over {σ : Browsing ρ} (h : σ.parting ≠ none) (t : Turn) :
    σ.step t = { σ with hub := σ.hub.run (others [t]) } := by
  have hover : σ.parting.isNone = false := by
    rw [Option.isNone_eq_false_iff, ← Option.ne_none_iff_isSome]
    exact h
  cases t with
  | frame | timer =>
    rw [step, hover, if_neg Bool.false_ne_true]
    rfl
  | other a => rfl

omit [FleetDraws ρ] in
theorem frames_append (first second : List Turn) :
    frames (first ++ second) = frames first ++ frames second := List.filterMap_append

omit [FleetDraws ρ] in
/-- What somebody else does is no frame. -/
theorem frames_other (turns : List Turn) (a : Hub.Action) :
    frames turns = frames (turns ++ [.other a]) := by
  rw [frames_append]
  exact (List.append_nil _).symm

omit [FleetDraws ρ] in
/-- That the timer goes off is no frame. -/
theorem frames_timer (turns : List Turn) : frames turns = frames (turns ++ [.timer]) := by
  rw [frames_append]
  exact (List.append_nil _).symm

omit [FleetDraws ρ] in
/-- A frame is one frame more. -/
theorem frames_frame (turns : List Turn) (f : Incoming) :
    frames turns ++ [f] = frames (turns ++ [.frame f]) := (frames_append turns [.frame f]).symm

/-- What somebody else does leaves a socket as it is. -/
theorem Kept.other {turns : List Turn} {σ : Browsing ρ} (hk : σ.Kept turns) (a : Hub.Action) :
    (σ.step (.other a)).Kept (turns ++ [.other a]) where
  intact := hk.intact
  isOpen := hk.isOpen
  counted := frames_other turns a ▸ hk.counted

/-- All that the timer can do to a socket in use. The session goes on, or it ends by itself; the
markers and the events are left alone. -/
theorem Kept.timer_cases {turns : List Turn} {σ : Browsing ρ} (hk : σ.Kept turns)
    (hstill : σ.parting = none) :
    (σ.step .timer).hub.Alike σ.hub ∧
      (((σ.step .timer).parting = none ∧ (σ.step .timer).Kept (turns ++ [.timer])) ∨
        (σ.step .timer).parting = some (.evicted (some .tooSlow)) ∨
        (σ.step .timer).parting = some .fault) := by
  have hcounted := frames_timer turns ▸ hk.counted
  have hstep : σ.step .timer = σ.onTimer := by rw [step, hstill]; rfl
  rw [hstep, onTimer]
  by_cases hmounted : σ.socket.session.phase = .mounted
  · rw [if_pos hmounted]
    obtain ⟨hintact, hopen⟩ := hk.intact.connect hk.isOpen
    exact ⟨.refl _, .inl ⟨hstill, hintact, hopen, hcounted⟩⟩
  · rw [if_neg hmounted]
    cases htick : σ.socket.session.tick σ.hub with
    | error fault =>
      rw [ViewSocket.tick_of_error htick]
      exact ⟨alike_leave hk.intact .fault, .inr (.inr rfl)⟩
    | ok result =>
      obtain ⟨deltas, session, hub⟩ := result
      have halike : hub.Alike σ.hub := hk.intact.alike_tick htick
      obtain ⟨hintact, -⟩ := hk.intact.moves_tick htick
      rw [ViewSocket.tick_of_ok htick]
      by_cases hclosed : session.phase = .closed
      · rw [if_pos hclosed]
        exact ⟨(alike_leave hintact _).trans halike, .inr (.inl rfl)⟩
      · rw [if_neg hclosed]
        exact ⟨halike, .inl ⟨rfl, hintact, hclosed, hcounted⟩⟩

omit [FleetDraws ρ] in
/-- A frame that is not to be tolerated tells nothing. -/
theorem interaction?_of_not_tolerable {sofar : List Incoming} (htolerable : Tolerable sofar)
    {f : Incoming} (hover : ¬ Tolerable (sofar ++ [f])) : f.interaction? = none := by
  rw [tolerable_append_singleton htolerable] at hover
  cases f with
  | binary | ping | pong | close | lost => rfl
  | text content =>
    rw [Incoming.interaction?]
    cases hp : BrowserFrame.parse? content with
    | none => rfl
    | some event =>
      have hreadable : (Incoming.text content).isUnreadable = false := by
        rw [Incoming.isUnreadable, hp]
        rfl
      rw [hreadable] at hover
      exact absurd ⟨rfl, htolerable.unreadable⟩ hover

omit [FleetDraws ρ] in
/-- The listeners hear of a frame what the user did. -/
theorem heard_frame (f : Incoming) :
    heard [.frame f] = (f.interaction?.map Hub.Action.interact).toList := by
  have hheard : (Turn.frame f).heard? = f.interaction?.map .interact := rfl
  rw [heard, List.filterMap_cons, hheard]
  cases f.interaction? <;> rfl

/-- A frame that is tolerated is counted if it is an unreadable text, and the listeners hear what
the user did; nothing else changes. -/
theorem Kept.step_tolerable {turns : List Turn} {σ : Browsing ρ} (hk : σ.Kept turns)
    (hstill : σ.parting = none) {f : Incoming} (htolerable : Tolerable (frames turns))
    (hmore : Tolerable (frames turns ++ [f])) :
    σ.step (.frame f) =
      ⟨{ σ.socket with invalid := σ.socket.invalid + f.isUnreadable.toNat },
        σ.hub.run (heard [.frame f]), none⟩ := by
  have hstep : σ.step (.frame f) = σ.onFrame f := by rw [step, hstill]; rfl
  rw [tolerable_append_singleton htolerable, ← hk.counted] at hmore
  rw [hstep, onFrame, ViewSocket.receive_eq hk.isOpen (hk.counted ▸ htolerable.unreadable),
    if_pos hmore, heard_frame]

omit [FleetDraws ρ] in
/-- A tolerable frame keeps a socket in use. -/
theorem Kept.frame {turns : List Turn} {σ : Browsing ρ} (hk : σ.Kept turns) (f : Incoming)
    {hub : Hub} {parting : Option Parting} :
    Kept (turns ++ [.frame f])
      ⟨{ σ.socket with invalid := σ.socket.invalid + f.isUnreadable.toNat }, hub, parting⟩ where
  intact := hk.intact
  isOpen := hk.isOpen
  counted := by
    rw [← frames_frame, countP_isUnreadable_concat, hk.counted]

/-- A frame that is not tolerated ends the connection, and leaves the markers and the events alone.
-/
theorem Kept.step_intolerable {turns : List Turn} {σ : Browsing ρ} (hk : σ.Kept turns)
    (hstill : σ.parting = none) {f : Incoming} (htolerable : Tolerable (frames turns))
    (hover : ¬ Tolerable (frames turns ++ [f])) :
    (σ.step (.frame f)).parting = some (.frame f.parting?) ∧
      (σ.step (.frame f)).hub.Alike σ.hub := by
  have hsilent := interaction?_of_not_tolerable htolerable hover
  have hstep : σ.step (.frame f) = σ.onFrame f := by rw [step, hstill]; rfl
  rw [tolerable_append_singleton htolerable, ← hk.counted] at hover
  rw [hstep, onFrame, ViewSocket.receive_eq hk.isOpen (hk.counted ▸ htolerable.unreadable),
    if_neg hover, hsilent]
  have hleft : ∀ {σ : Browsing ρ}, σ.socket.session.Intact →
      (σ.leave (.frame f.parting?)).hub.Alike σ.hub := fun hi => alike_leave hi _
  exact ⟨rfl, hleft hk.intact⟩

/-! ## All turns -/

theorem run_append (σ : Browsing ρ) (first second : List Turn) :
    σ.run (first ++ second) = (σ.run first).run second := List.foldl_append

/-- One more turn at the end of a run. -/
theorem run_concat (σ : Browsing ρ) (turns : List Turn) (t : Turn) :
    σ.run (turns ++ [t]) = (σ.run turns).step t := by
  rw [run_append]
  rfl

omit [FleetDraws ρ] in
theorem heard_append (first second : List Turn) :
    heard (first ++ second) = heard first ++ heard second := List.filterMap_append

omit [FleetDraws ρ] in
theorem others_append (first second : List Turn) :
    others (first ++ second) = others first ++ others second := List.filterMap_append

/-- Once a connection has ended, its account is closed. -/
theorem Ended.concat {σ : Browsing ρ} {before after : List Turn} {t : Turn} {parting : Parting}
    (h : σ.Ended before t after parting) (next : Turn) :
    σ.Ended before t (after ++ [next]) parting := by
  have hturns : before ++ t :: (after ++ [next]) = before ++ t :: after ++ [next] := by simp
  have hover : (σ.run (before ++ t :: after)).parting ≠ none := by
    rw [h.parting]
    exact Option.some_ne_none _
  have hlast := step_of_over hover next
  refine ⟨h.still, h.tolerable, ?_, ?_⟩
  · rw [hturns, run_concat, hlast]
    exact h.parting
  · rw [hturns, run_concat, hlast, others_append, ← List.append_assoc, Hub.run_append]
    exact h.alike.run _

/-- An account of a connection that has ended says why it is over. -/
theorem Ended.parting_ne_none {σ : Browsing ρ} {before after : List Turn} {t : Turn}
    {parting : Parting} (h : σ.Ended before t after parting) :
    (σ.run (before ++ t :: after)).parting ≠ none := by
  rw [h.parting]
  exact Option.some_ne_none _

/-- A connection that ends in the next turn, with the markers and the events left alone. -/
theorem ended_of_step {σ : Browsing ρ} {turns : List Turn} (still : (σ.run turns).parting = none)
    (tolerable : Tolerable (frames turns))
    (alike : (σ.run turns).hub.Alike (σ.hub.run (heard turns))) {t : Turn} {parting : Parting}
    (hparting : ((σ.run turns).step t).parting = some parting)
    (hleft : ((σ.run turns).step t).hub.Alike (σ.run turns).hub) :
    σ.Ended turns t [] parting where
  still := still
  tolerable := tolerable
  parting := by
    rw [run_concat]
    exact hparting
  alike := by
    rw [run_concat]
    exact (hleft.trans alike).trans (by simp [others, Hub.Alike.refl])

/-- A connection that goes on after the next turn, which tells the listeners what it should. -/
theorem goesOn_of_step {σ : Browsing ρ} {turns : List Turn} {t : Turn}
    (hstays : ((σ.run turns).step t).parting = none) (tolerable : Tolerable (frames (turns ++ [t])))
    (halike : ((σ.run turns).step t).hub.Alike ((σ.hub.run (heard turns)).run (heard [t]))) :
    σ.Account (turns ++ [t]) := by
  refine .goesOn ?_ tolerable ?_
  · rw [run_concat]
    exact hstays
  · rw [run_concat, heard_append, Hub.run_append]
    exact halike

/-- The account of a connection, turn by turn, and the socket while it goes on. -/
theorem account_run {σ : Browsing ρ} (hstill : σ.parting = none) (hkept : σ.Kept [])
    (turns : List Turn) :
    σ.Account turns ∧ ((σ.run turns).parting = none → (σ.run turns).Kept turns) := by
  induction turns using List.reverseRecOn with
  | nil =>
    have htolerable : Tolerable (frames []) := ⟨fun f hf => (by cases hf), Nat.zero_le _⟩
    exact ⟨.goesOn hstill htolerable (.refl _), fun _ => hkept⟩
  | append_singleton turns t ih =>
    obtain ⟨haccount, hkept⟩ := ih
    cases haccount with
    | cutOff intolerable ended =>
      rw [List.append_assoc, List.cons_append]
      exact ⟨.cutOff intolerable (ended.concat t),
        fun hn => absurd hn (ended.concat t).parting_ne_none⟩
    | fellBehind why ended =>
      rw [List.append_assoc, List.cons_append]
      exact ⟨.fellBehind why (ended.concat t), fun hn => absurd hn (ended.concat t).parting_ne_none⟩
    | goesOn still tolerable alike =>
      have hk := hkept still
      cases t with
      | other a =>
        rw [run_concat]
        exact ⟨goesOn_of_step still (frames_other turns a ▸ tolerable) (alike.act a),
          fun _ => hk.other a⟩
      | timer =>
        obtain ⟨hleft, ⟨hstays, hk'⟩ | hparting | hparting⟩ := hk.timer_cases still
        · rw [run_concat]
          exact ⟨goesOn_of_step hstays (frames_timer turns ▸ tolerable) (hleft.trans alike),
            fun _ => hk'⟩
        · have hended := ended_of_step still tolerable alike hparting hleft
          exact ⟨.fellBehind (.inl rfl) hended, fun hn => absurd hn hended.parting_ne_none⟩
        · have hended := ended_of_step still tolerable alike hparting hleft
          exact ⟨.fellBehind (.inr rfl) hended, fun hn => absurd hn hended.parting_ne_none⟩
      | frame f =>
        by_cases hmore : Tolerable (frames turns ++ [f])
        · have hstep := hk.step_tolerable still tolerable hmore
          rw [run_concat]
          refine ⟨goesOn_of_step (by rw [hstep]) (frames_frame turns f ▸ hmore) ?_, fun _ => ?_⟩
          · rw [hstep]
            exact alike.run _
          · rw [hstep]
            exact hk.frame f
        · obtain ⟨hparting, hleft⟩ := hk.step_intolerable still tolerable hmore
          have hended := ended_of_step still tolerable alike hparting hleft
          exact ⟨.cutOff hmore hended, fun hn => absurd hn hended.parting_ne_none⟩

/-- While the connection goes on, the listeners have heard all that the user did. -/
theorem Account.alike_of_still {σ : Browsing ρ} {turns : List Turn} (h : σ.Account turns)
    (hstill : (σ.run turns).parting = none) :
    (σ.run turns).hub.Alike (σ.hub.run (heard turns)) := by
  cases h with
  | goesOn _ _ alike => exact alike
  | cutOff _ ended => exact absurd hstill ended.parting_ne_none
  | fellBehind _ ended => exact absurd hstill ended.parting_ne_none

/-- What is asked of a view socket on which some turns have been taken. -/
structure Disciplined (source : Source ρ) (hub : Hub) (turns : List Turn) : Prop where
  /-- Opening the socket tells the listeners nothing. -/
  opening : (begin source hub).hub.Alike hub
  /-- The connection goes on, or it has ended with the first frame that is not to be tolerated, or
  the session has ended by itself; the listeners have heard accordingly. -/
  account : (begin source hub).Account turns
  /-- A tolerable frame that comes next leaves the session as it is. -/
  session : ∀ f, ((begin source hub).run turns).parting = none → Tolerable (frames turns ++ [f]) →
    ((begin source hub).run (turns ++ [.frame f])).socket.session =
      ((begin source hub).run turns).socket.session
  /-- If it is not a readable text either, it leaves the hub as it is, too. -/
  silence : ∀ f, ((begin source hub).run turns).parting = none → f.interaction? = none →
    Tolerable (frames turns ++ [f]) →
    ((begin source hub).run (turns ++ [.frame f])).hub = ((begin source hub).run turns).hub
  /-- If it is one, every listener has what the user did queued once, if there is room. -/
  heard : hub.Valid → ∀ f interaction, ((begin source hub).run turns).parting = none →
    f.interaction? = some interaction → Tolerable (frames turns ++ [f]) →
    ((begin source hub).run turns).hub.events.Offered interaction.toEvent
      ((begin source hub).run (turns ++ [.frame f])).hub.events

/-- Whatever is sent on a view socket, and whenever: the listeners are told what the readable texts
report, one after the other, and nothing from the first frame on that is not to be tolerated; that
frame ends the connection, with the answer that its kind asks for, and only such a frame does. -/
theorem view_socket_is_disciplined (source : Source ρ) (hub : Hub) (turns : List Turn) :
    Disciplined source hub turns := by
  obtain ⟨hintact, hopen⟩ := Session.intact_mount source hub
  have hkept : (begin source hub).Kept [] := ⟨hintact, hopen, rfl⟩
  obtain ⟨haccount, hkept⟩ := account_run rfl hkept turns
  have hstep : ∀ f, ((begin source hub).run turns).parting = none →
      Tolerable (frames turns ++ [f]) →
      (begin source hub).run (turns ++ [.frame f]) =
        ⟨{ ((begin source hub).run turns).socket with
            invalid := ((begin source hub).run turns).socket.invalid + f.isUnreadable.toNat },
          ((begin source hub).run turns).hub.run (heard [.frame f]), none⟩ := by
    intro f hstill hmore
    have htolerable : Tolerable (frames turns) := hmore.of_append
    rw [run_concat]
    exact (hkept hstill).step_tolerable hstill htolerable hmore
  have hopening : (begin source hub).hub.Alike hub := ⟨rfl, rfl⟩
  constructor
  case opening => exact hopening
  case account => exact haccount
  case session =>
    intro f hstill hmore
    rw [hstep f hstill hmore]
  case silence =>
    intro f hstill hsilent hmore
    rw [hstep f hstill hmore, heard_frame, hsilent]
    rfl
  case heard =>
    intro hv f interaction hstill htold hmore
    have hevents : ((begin source hub).run turns).hub.events.Valid := by
      rw [(haccount.alike_of_still hstill).events, (hopening.run _).events]
      exact (hv.run _).events
    rw [hstep f hstill hmore, heard_frame, htold]
    exact hevents.offered_publish interaction.toEvent

end Browsing

namespace Server

/-- A running server takes a frame by such a turn, and closes the socket as it says. -/
theorem receiveView_eq (s : Server ρ) (name : String) (socket : ViewSocket ρ) (timer : Timer)
    (f : Incoming) :
    let σ : Browsing ρ := Browsing.onFrame ⟨socket, s.hub, none⟩ f
    s.receiveView name socket timer f =
      match σ.parting with
      | some (.frame close) => ({ s with hub := σ.hub } : Server ρ).finish name close
      | _ => ({ s with hub := σ.hub } : Server ρ).setConnection name (.view σ.socket timer) := by
  unfold receiveView Browsing.onFrame
  obtain ⟨verdict, socket', hub'⟩ := socket.receive f s.hub
  cases verdict <;> rfl

end Server

end LiveMap
