import LiveMap.Proofs.Session.Turn
import LiveMap.Proofs.Socket.Moves

/-!
# No place on a channel is lost

A hub is used by views and by sockets. A view holds a place on the channel of commands, and one on
the channel of operations if it shows the shared registry; a socket holds one on the channel of
events while it streams. Places are given up in many ways: a session is closed, or closes itself, or
goes away with its view; a stream is cancelled, or is found at its end, or ends with its connection;
and a publication takes the place of whoever has no room left.

Whatever anybody does is one move on each channel. From this follows the invariant (`Settled`): no
two clients hold the same subscription, and a mailbox exists exactly for those that are held. So the
live subscribers of a channel are the clients that hold a place and were not evicted, and they can
be counted.

Main statement: `places_are_accounted_for`, for any number of clients and all that they do.
-/

namespace LiveMap

open Channel (evictions published)

variable {ρ : Type}

/-! ## Clients -/

/-- Somebody who uses a hub. -/
inductive Client (ρ : Type) where
  /-- A view. -/
  | view (w : Watch ρ)
  /-- An RPC socket, whose connection goes on or has ended. -/
  | socket (s : RpcSocket) (isOpen : Bool)

/-- What happens to one client. -/
inductive Client.Turn (ρ : Type) where
  /-- Something happens to a view. -/
  | view (t : Watch.Turn ρ)
  /-- A frame arrives at a socket. -/
  | frame (f : Incoming)
  /-- A socket takes the next event of its stream. -/
  | deliver

namespace Client

/-- The client and the hub after a turn. A turn of another kind of client changes nothing. -/
def turn [FleetDraws ρ] (c : Client ρ) (hub : Hub) (t : Client.Turn ρ) : Client ρ × Hub :=
  match c, t with
  | view w, .view t => (view (w.turn hub t).2.1, (w.turn hub t).2.2)
  | socket s isOpen, .frame f =>
    let σ := ((⟨s, hub, isOpen⟩ : Conversation).step (.frame f)).2
    (socket σ.socket σ.isOpen, σ.hub)
  | socket s isOpen, .deliver =>
    let σ := ((⟨s, hub, isOpen⟩ : Conversation).step .deliver).2
    (socket σ.socket σ.isOpen, σ.hub)
  | c, _ => (c, hub)

/-- A turn in which a client publishes nothing: a view does not tell the listeners what its user
did, and a socket gets no text. -/
def Turn.isQuiet : Client.Turn ρ → Bool
  | .view t => t.isQuiet
  | .frame (.text _) => false
  | .frame _ | .deliver => true

/-- What a turn does to the channel of a lane. -/
def does [FleetDraws ρ] (c : Client ρ) (hub : Hub) (t : Client.Turn ρ) (l : Lane) :
    List (Channel.Action l.Item) :=
  match c, t with
  | view w, .view t => w.does hub t l
  | socket s isOpen, .frame f => (⟨s, hub, isOpen⟩ : Conversation).does (.frame f) l
  | socket s isOpen, .deliver => (⟨s, hub, isOpen⟩ : Conversation).does .deliver l
  | _, _ => []

/-- The subscriptions that a client holds. -/
def subscriber? (c : Client ρ) (l : Lane) : Option SubscriberId :=
  match c, l with
  | view w, l => w.subscriber? l
  | socket s _, .events => s.stream.map EventStream.subscriber
  | socket .., .ops | socket .., .commands => none

/-- Whether a client is to have a place on a lane. For the commands these are the views with a
session that is not closed, for the operations those of them that show the shared registry and those
that are about to, and for the events the sockets with a stream. A view that was dropped has no
session. -/
def isOpen (c : Client ρ) (l : Lane) : Bool :=
  match c, l with
  | view (.mounted s), .commands => s.phase ≠ .closed
  | view (.mounted s), .ops =>
    match s.source with
    | some (.shared _) => s.phase ≠ .closed
    | some (.simulated _) | none => false
  | view (.attached (.shared _)), .ops => true
  | socket s _, .events => s.stream.isSome
  | _, _ => false

/-- Whether the subscription of a client on a lane is among the evicted ones. -/
def isEvicted (c : Client ρ) (l : Lane) (evicted : List SubscriberId) : Bool :=
  (c.subscriber? l).any evicted.contains

/-- Whether the session of a client is intact, if it has one. -/
def Intact : Client ρ → Prop
  | view w => w.Intact
  | socket .. => True

/-- A socket holds what its conversation holds. -/
theorem subscriber?_socket (s : RpcSocket) (isOpen : Bool) (hub : Hub) :
    (socket s isOpen : Client ρ).subscriber? = (⟨s, hub, isOpen⟩ : Conversation).held := by
  funext l
  cases l <;> rfl

/-- Whoever is intact holds a subscription exactly if it is to have a place. -/
theorem Intact.isSome_subscriber? {c : Client ρ} (hi : c.Intact) (l : Lane) :
    (c.subscriber? l).isSome = c.isOpen l := by
  cases c with
  | socket s isOpen =>
    cases l with
    | ops | commands => rfl
    | events => exact Option.isSome_map
  | view w =>
    cases w with
    | absent => cases l <;> rfl
    | attached source => cases source <;> cases l <;> rfl
    | mounted s =>
      cases l with
      | events => rfl
      | commands =>
        -- There is a subscription to the commands exactly until the session is closed.
        show s.commands.isSome = decide (s.phase ≠ .closed)
        rw [Bool.eq_iff_iff, decide_eq_true_iff, Option.isSome_iff_ne_none]
        exact not_congr hi.commands
      | ops =>
        show (s.source.bind Source.ops?).isSome = _
        unfold isOpen
        dsimp only
        cases hs : s.source with
        | none => rfl
        | some source =>
          have hopen : s.phase ≠ .closed := by
            intro hc
            rw [hi.source.2 hc] at hs
            cases hs
          cases source with
          | shared id => exact (decide_eq_true hopen).symm
          | simulated fleet => rfl

/-- Every turn of an intact client keeps it intact, and is one move on each lane. -/
theorem Intact.moves_turn [FleetDraws ρ] {c : Client ρ} (hi : c.Intact) (hub : Hub)
    (t : Client.Turn ρ) :
    (c.turn hub t).1.Intact ∧
      hub.Moves (c.turn hub t).2 c.subscriber? (c.turn hub t).1.subscriber? (c.does hub t) := by
  cases c with
  | view w =>
    cases t with
    | view t => exact Watch.Intact.moves_turn hi hub t
    | frame f => exact ⟨hi, .nothing hub _⟩
    | deliver => exact ⟨hi, .nothing hub _⟩
  | socket s isOpen =>
    have hmoves : ∀ t : LiveMap.Turn, (∃ f, t = .frame f) ∨ t = .deliver →
        let σ : Conversation := ⟨s, hub, isOpen⟩
        hub.Moves (σ.step t).2.hub (socket s isOpen : Client ρ).subscriber?
          (socket (σ.step t).2.socket (σ.step t).2.isOpen : Client ρ).subscriber? (σ.does t) := by
      intro t ht σ
      rw [subscriber?_socket s isOpen hub, subscriber?_socket _ _ (σ.step t).2.hub]
      exact σ.moves_step ht
    cases t with
    | view t => exact ⟨hi, .nothing hub _⟩
    | frame f => exact ⟨trivial, hmoves (.frame f) (Or.inl ⟨f, rfl⟩)⟩
    | deliver => exact ⟨trivial, hmoves .deliver (Or.inr rfl)⟩

/-- In a quiet turn a client publishes nothing. -/
theorem published_does [FleetDraws ρ] (c : Client ρ) (hub : Hub) {t : Client.Turn ρ}
    (ht : t.isQuiet = true) (l : Lane) : published (c.does hub t l) = [] := by
  cases c with
  | view w =>
    cases t with
    | view t => exact w.published_does hub ht l
    | frame f => rfl
    | deliver => rfl
  | socket s isOpen =>
    cases t with
    | view t => rfl
    | deliver => exact Conversation.published_does _ (Or.inr rfl) l
    | frame f =>
      refine Conversation.published_does _ (Or.inl ⟨f, rfl, fun content he => ?_⟩) l
      rw [he] at ht
      cases ht

end Client

/-! ## Everybody on one hub -/

/-- A hub with all who use it. -/
structure Clientele (ρ : Type) where
  /-- The hub. -/
  hub : Hub
  /-- The clients. -/
  clients : List (Client ρ)

namespace Clientele

/-- All that happens. -/
inductive Action (ρ : Type) where
  /-- Something happens to the client with this number. -/
  | turn (k : Nat) (t : Client.Turn ρ)
  /-- Someone changes the registry. -/
  | mutate (mutation : Mutation)
  /-- Someone sends a command to every view. -/
  | issue (command : MapCommand)
  /-- Someone tells the listeners what a user did in a browser. -/
  | interact (interaction : Interaction)

/-- A new hub. Of the given numbers of views and sockets, none has done anything yet. -/
def create (capacity views sockets : Nat) : Clientele ρ where
  hub := .create capacity
  clients := .replicate views (.view .absent) ++ .replicate sockets (.socket .idle true)

/-- The subscriptions that the client with a number holds. -/
def held (σ : Clientele ρ) (k : Nat) (l : Lane) : Option SubscriberId :=
  σ.clients[k]?.bind (·.subscriber? l)

/-! ## The invariant -/

/-- What holds at any moment. -/
structure Settled (σ : Clientele ρ) : Prop where
  /-- The hub is valid. -/
  hub : σ.hub.Valid
  /-- All sessions are intact. -/
  intact : ∀ c ∈ σ.clients, c.Intact
  /-- No two clients hold the same subscription. -/
  distinct : ∀ l i j id, σ.held i l = some id → σ.held j l = some id → i = j
  /-- A mailbox exists exactly for the subscriptions that are held. -/
  mailbox_iff : ∀ l id, (σ.hub.lane l).mailbox? id ≠ none ↔ ∃ k, σ.held k l = some id

/-- At first nobody holds anything. -/
theorem held_create (capacity views sockets k : Nat) (l : Lane) :
    (create capacity views sockets : Clientele ρ).held k l = none := by
  unfold held create
  cases hc : (List.replicate views (Client.view (.absent : Watch ρ)) ++
      List.replicate sockets (.socket .idle true))[k]? with
  | none => rfl
  | some c =>
    rcases List.mem_append.1 (List.mem_of_getElem? hc) with hview | hsocket
    · rw [List.eq_of_mem_replicate hview]
      rfl
    · rw [List.eq_of_mem_replicate hsocket]
      cases l <;> rfl

/-- The invariant holds at first. -/
theorem settled_create (capacity views sockets : Nat) :
    (create capacity views sockets : Clientele ρ).Settled where
  hub := Hub.valid_create capacity
  intact c hc := by
    rcases List.mem_append.1 hc with hview | hsocket
    · rw [List.eq_of_mem_replicate hview]
      trivial
    · rw [List.eq_of_mem_replicate hsocket]
      trivial
  distinct l i j id hi := by
    rw [held_create] at hi
    cases hi
  mailbox_iff l id := by
    have hnone : ((create capacity views sockets : Clientele ρ).hub.lane l).mailbox? id = none := by
      cases l <;> rfl
    refine ⟨fun hbox => absurd hnone hbox, ?_⟩
    rintro ⟨k, hk⟩
    rw [held_create] at hk
    cases hk

/-- A subscription that nobody holds has neither a mailbox nor a place. -/
theorem Settled.gone_of_not_held {σ : Clientele ρ} (h : σ.Settled) {l : Lane} {id : SubscriberId}
    (hnobody : ∀ k, σ.held k l ≠ some id) :
    (σ.hub.lane l).mailbox? id = none ∧ (σ.hub.lane l).isSubscribed id = false := by
  have hbox : (σ.hub.lane l).mailbox? id = none := by
    by_contra hsome
    obtain ⟨k, hk⟩ := (h.mailbox_iff l id).1 hsome
    exact hnobody k hk
  refine ⟨hbox, Bool.eq_false_iff.2 fun hlive => ?_⟩
  exact (h.hub.lane l).held_of_live id ((Channel.isSubscribed_iff _ id).1 hlive) hbox

/-- What a client holds is held by a member of the clientele. -/
theorem exists_held_iff (σ : Clientele ρ) (l : Lane) (id : SubscriberId) :
    (∃ k, σ.held k l = some id) ↔ ∃ c ∈ σ.clients, c.subscriber? l = some id := by
  constructor
  · rintro ⟨k, hk⟩
    obtain ⟨c, hc, hid⟩ := Option.bind_eq_some_iff.1 hk
    exact ⟨c, List.mem_of_getElem? hc, hid⟩
  · rintro ⟨c, hc, hid⟩
    obtain ⟨k, hk⟩ := List.mem_iff_getElem?.1 hc
    exact ⟨k, Option.bind_eq_some_iff.2 ⟨c, hk, hid⟩⟩

/-- If the live subscribers are the holders that are not among some, they can be counted. -/
theorem Settled.subscriberCount_eq {σ : Clientele ρ} (h : σ.Settled) {l : Lane}
    {evicted : List SubscriberId}
    (hlive : ∀ id, (σ.hub.lane l).isSubscribed id = true ↔
      (σ.hub.lane l).mailbox? id ≠ none ∧ id ∉ evicted) :
    (σ.hub.lane l).subscriberCount =
      σ.clients.countP fun c => c.isOpen l && !c.isEvicted l evicted := by
  -- The subscriptions of the clients, in the order of the clients, without the evicted ones.
  let spared (c : Client ρ) := (c.subscriber? l).filter fun id => !evicted.contains id
  have hspared : ∀ c id, spared c = some id ↔ c.subscriber? l = some id ∧ id ∉ evicted := by
    intro c id
    rw [Option.filter_eq_some_iff, Bool.not_eq_true', ← Bool.not_eq_true, List.contains_iff_mem]
  have hnodup : (σ.clients.filterMap spared).Nodup := by
    refine List.pairwise_filterMap.2 (List.pairwise_iff_getElem.2 fun i j hi hj hij => ?_)
    rintro id hid _ hid' rfl
    have hheld : ∀ k (hk : k < σ.clients.length), spared σ.clients[k] = some id →
        σ.held k l = some id := by
      intro k hk hs
      rw [held, List.getElem?_eq_getElem hk, Option.bind_some]
      exact ((hspared _ _).1 hs).1
    exact Nat.ne_of_lt hij (h.distinct l i j id (hheld i hi hid) (hheld j hj hid'))
  have hmem : ∀ id, id ∈ (σ.hub.lane l).live ↔ id ∈ σ.clients.filterMap spared := by
    intro id
    rw [← Channel.isSubscribed_iff, hlive, h.mailbox_iff, exists_held_iff, List.mem_filterMap]
    simp only [hspared]
    constructor
    · rintro ⟨⟨c, hc, hid⟩, hnot⟩
      exact ⟨c, hc, hid, hnot⟩
    · rintro ⟨c, hc, hid, hnot⟩
      exact ⟨⟨c, hc, hid⟩, hnot⟩
  have hperm : (σ.hub.lane l).live.Perm (σ.clients.filterMap spared) :=
    (List.perm_ext_iff_of_nodup (h.hub.lane l).live_nodup hnodup).2 hmem
  have hisSome : ∀ c ∈ σ.clients, (spared c).isSome = (c.isOpen l && !c.isEvicted l evicted) := by
    intro c hc
    rw [← (h.intact c hc).isSome_subscriber? l]
    show ((c.subscriber? l).filter _).isSome = ((c.subscriber? l).isSome && !c.isEvicted l evicted)
    unfold Client.isEvicted
    cases c.subscriber? l with
    | none => rfl
    | some id =>
      rw [Option.isSome_filter]
      rfl
  rw [Channel.subscriberCount, hperm.length_eq, List.length_filterMap_eq_countP]
  exact List.countP_congr fun c hc => by rw [hisSome c hc]

/-! ## Runs -/

variable [FleetDraws ρ]

/-- What an action leads to. -/
def step (σ : Clientele ρ) : Action ρ → Clientele ρ
  | .turn k t =>
    match σ.clients[k]? with
    | some c => ⟨(c.turn σ.hub t).2, σ.clients.set k (c.turn σ.hub t).1⟩
    | none => σ
  | .mutate mutation => { σ with hub := σ.hub.act (.mutate mutation) }
  | .issue command => { σ with hub := σ.hub.act (.issue command) }
  | .interact interaction => { σ with hub := σ.hub.act (.interact interaction) }

/-- What an action does to the channel of a lane. -/
def does (σ : Clientele ρ) (l : Lane) : Action ρ → List (Channel.Action l.Item)
  | .turn k t =>
    match σ.clients[k]? with
    | some c => c.does σ.hub t l
    | none => []
  | .mutate mutation => σ.hub.on (.mutate mutation) l
  | .issue command => σ.hub.on (.issue command) l
  | .interact interaction => σ.hub.on (.interact interaction) l

/-- The number of the client that acts. If it is none of them, any will do, since nobody takes or
gives up anything. -/
def Action.mover : Action ρ → Nat
  | .turn k _ => k
  | .mutate _ | .issue _ | .interact _ => 0

/-- What some actions in turn lead to. -/
def run (σ : Clientele ρ) (actions : List (Action ρ)) : Clientele ρ := actions.foldl step σ

/-- What some actions in turn do to the channel of a lane. -/
def doings (l : Lane) : Clientele ρ → List (Action ρ) → List (Channel.Action l.Item)
  | _, [] => []
  | σ, a :: rest => σ.does l a ++ doings l (σ.step a) rest

@[simp] theorem run_nil (σ : Clientele ρ) : σ.run [] = σ := rfl

@[simp] theorem run_cons (σ : Clientele ρ) (a : Action ρ) (rest : List (Action ρ)) :
    σ.run (a :: rest) = (σ.step a).run rest := rfl

theorem run_append (σ : Clientele ρ) (first second : List (Action ρ)) :
    σ.run (first ++ second) = (σ.run first).run second := List.foldl_append

/-- All that an action does: the client that acts makes a move on each lane, and nobody else does
anything. -/
theorem Settled.moves_step {σ : Clientele ρ} (h : σ.Settled) (a : Action ρ) :
    (∀ c ∈ (σ.step a).clients, c.Intact) ∧
      σ.hub.Moves (σ.step a).hub (σ.held a.mover) ((σ.step a).held a.mover)
        (fun l => σ.does l a) ∧
      ∀ j, j ≠ a.mover → (σ.step a).held j = σ.held j := by
  cases a with
  -- Whoever it is that publishes, what the clients hold stays the same.
  | mutate mutation =>
    exact ⟨h.intact, σ.hub.moves_act (.mutate mutation) rfl _, fun _ _ => rfl⟩
  | issue command => exact ⟨h.intact, σ.hub.moves_act (.issue command) rfl _, fun _ _ => rfl⟩
  | interact interaction =>
    exact ⟨h.intact, σ.hub.moves_act (.interact interaction) rfl _, fun _ _ => rfl⟩
  | turn k t =>
    cases hc : σ.clients[k]? with
    | none =>
      have hstep : σ.step (.turn k t) = σ := by rw [step, hc]
      have hdoes : (fun l => σ.does l (.turn k t)) = fun _ => [] := by
        funext l
        rw [does, hc]
      rw [hstep, hdoes]
      exact ⟨h.intact, .nothing σ.hub _, fun _ _ => rfl⟩
    | some c =>
      have hk : k < σ.clients.length := (List.getElem?_eq_some_iff.1 hc).1
      have hstep : σ.step (.turn k t) =
          ⟨(c.turn σ.hub t).2, σ.clients.set k (c.turn σ.hub t).1⟩ := by rw [step, hc]
      have hdoes : (fun l => σ.does l (.turn k t)) = c.does σ.hub t := by
        funext l
        rw [does, hc]
      have hbefore : σ.held k = c.subscriber? := by
        funext l
        rw [held, hc, Option.bind_some]
      have hafter : (σ.step (.turn k t)).held k = (c.turn σ.hub t).1.subscriber? := by
        funext l
        rw [held, hstep, List.getElem?_set_self hk, Option.bind_some]
      obtain ⟨hintact, hmoves⟩ :=
        (h.intact c (List.mem_of_getElem? hc)).moves_turn σ.hub t
      refine ⟨fun c' hc' => ?_, ?_, fun j hj => ?_⟩
      · rw [hstep] at hc'
        rcases List.mem_or_eq_of_mem_set hc' with hold | rfl
        · exact h.intact c' hold
        · exact hintact
      · rw [Action.mover, hbefore, hafter, hstep, hdoes]
        exact hmoves
      · have hne : k ≠ j := Ne.symm hj
        funext l
        rw [held, hstep, List.getElem?_set_ne hne, held]

/-- Every action keeps the invariant. -/
theorem Settled.step {σ : Clientele ρ} (h : σ.Settled) (a : Action ρ) : (σ.step a).Settled := by
  obtain ⟨hintact, hmoves, hothers⟩ := h.moves_step a
  generalize a.mover = k at hmoves hothers
  have hbox : ∀ {l j id}, σ.held j l = some id → (σ.hub.lane l).mailbox? id ≠ none :=
    fun {l j id} hid => (h.mailbox_iff l id).2 ⟨j, hid⟩
  -- Nobody else holds what the mover holds afterwards: it held that before, or it is new.
  have hdistinct : ∀ {l j id}, (σ.step a).held k l = some id → (σ.step a).held j l = some id →
      j = k := by
    intro l j id hk hj
    by_contra hne
    rw [hothers j hne] at hj
    rcases (hmoves.move l).held_of_held hk with hold | rfl
    · exact hne (h.distinct l j k id hj hold)
    · exact Nat.lt_irrefl _ ((h.hub.lane l).lt_nextId _ (hbox hj))
  constructor
  case hub => exact hmoves.valid h.hub
  case intact => exact hintact
  case distinct =>
    intro l i j id hi hj
    by_cases hik : i = k
    · subst hik
      exact (hdistinct hi hj).symm
    · by_cases hjk : j = k
      · subst hjk
        exact hdistinct hj hi
      · rw [hothers i hik] at hi
        rw [hothers j hjk] at hj
        exact h.distinct l i j id hi hj
  case mailbox_iff =>
    intro l id
    rw [hmoves.lane, (hmoves.move l).mailbox?_ne_none_iff (h.hub.lane l) (fun _ => hbox) id]
    constructor
    · rintro (⟨hheld, hother⟩ | hk)
      · obtain ⟨j, hj⟩ := (h.mailbox_iff l id).1 hheld
        have hne : j ≠ k := fun he => hother (he ▸ hj)
        exact ⟨j, by rw [hothers j hne]; exact hj⟩
      · exact ⟨k, hk⟩
    · rintro ⟨j, hj⟩
      by_cases hjk : j = k
      · subst hjk
        exact Or.inr hj
      · rw [hothers j hjk] at hj
        exact Or.inl ⟨hbox hj, fun hk => hjk (h.distinct l j k id hj hk)⟩

/-- Every run keeps the invariant. -/
theorem Settled.run {σ : Clientele ρ} (h : σ.Settled) (actions : List (Action ρ)) :
    (σ.run actions).Settled := by
  induction actions generalizing σ with
  | nil => exact h
  | cons a rest ih => exact ih (h.step a)

/-! ## What follows from it -/

/-- A run of all clients is a run of the channel of each lane. -/
theorem Settled.lane_run {σ : Clientele ρ} (h : σ.Settled) (l : Lane) (actions : List (Action ρ)) :
    (σ.run actions).hub.lane l = (σ.hub.lane l).run (doings l σ actions) := by
  induction actions generalizing σ with
  | nil => rfl
  | cons a rest ih =>
    obtain ⟨-, hmoves, -⟩ := h.moves_step a
    rw [run_cons, ih (h.step a), hmoves.lane, doings, Channel.run_append]

/-- Nobody does anything to a channel but what holders do. -/
theorem Settled.isOrderly_of_mem_doings {σ : Clientele ρ} (h : σ.Settled) (l : Lane)
    (actions : List (Action ρ)) : ∀ b ∈ doings l σ actions, b.isOrderly = true := by
  induction actions generalizing σ with
  | nil => exact fun b hb => absurd hb List.not_mem_nil
  | cons a rest ih =>
    obtain ⟨-, hmoves, -⟩ := h.moves_step a
    intro b hb
    rcases List.mem_append.1 hb with hfirst | hrest
    · exact (hmoves.move l).isOrderly b hfirst
    · exact ih (h.step a) b hrest

/-- Whoever holds an old subscription after some actions has held it all along. -/
theorem Settled.held_of_held_run {σ : Clientele ρ} (h : σ.Settled) {l : Lane} {id : SubscriberId}
    (hold : id < (σ.hub.lane l).nextId) {k : Nat} {actions : List (Action ρ)}
    (hid : (σ.run actions).held k l = some id) : σ.held k l = some id := by
  induction actions generalizing σ with
  | nil => exact hid
  | cons a rest ih =>
    obtain ⟨-, hmoves, hothers⟩ := h.moves_step a
    have hlater : id < ((σ.step a).hub.lane l).nextId := by
      rw [hmoves.lane]
      exact Nat.lt_of_lt_of_le hold (Channel.nextId_le_run _ _)
    have hnext := ih (h.step a) hlater hid
    by_cases hk : k = a.mover
    · rw [hk] at hnext ⊢
      exact ((hmoves.move l).held_of_held hnext).resolve_right (Nat.ne_of_lt hold)
    · rw [hothers k hk] at hnext
      exact hnext

/-- What a client does without publishing anything on a lane leaves everybody else's place, mailbox
and queue there as they are. -/
theorem Settled.spared_of_published_nil {σ : Clientele ρ} (h : σ.Settled) {k : Nat}
    {t : Client.Turn ρ} {l : Lane} (hquiet : published (σ.does l (.turn k t)) = []) {j : Nat}
    (hj : j ≠ k) {id : SubscriberId} (hid : σ.held j l = some id) :
    (σ.step (.turn k t)).held j l = some id ∧
      ((σ.step (.turn k t)).hub.lane l).isSubscribed id = (σ.hub.lane l).isSubscribed id ∧
      ((σ.step (.turn k t)).hub.lane l).queued id = (σ.hub.lane l).queued id := by
  obtain ⟨-, hmoves, hothers⟩ := h.moves_step (.turn k t)
  have hbox : (σ.hub.lane l).mailbox? id ≠ none := (h.mailbox_iff l id).2 ⟨j, hid⟩
  have hother : σ.held k l ≠ some id := fun hk => hj (h.distinct l j k id hid hk)
  refine ⟨by rw [hothers j hj, hid], ?_⟩
  rw [hmoves.lane]
  exact (hmoves.move l).standing_of_ne (h.hub.lane l) hother ((h.hub.lane l).lt_nextId id hbox)
    hquiet

/-! ## The account -/

/-- What holds of the places on the channels of a hub after some actions. -/
structure Accounts (start : Clientele ρ) (actions : List (Action ρ)) : Prop where
  /-- On each lane there are as many live subscribers as there are clients who are to have a place
  there and whose subscription no publication has evicted. -/
  counts : ∀ l, ((start.run actions).hub.lane l).subscriberCount =
    (start.run actions).clients.countP fun c =>
      c.isOpen l && !c.isEvicted l (evictions (start.hub.lane l) (doings l start actions))
  /-- This is all that was done to the channel of the lane. -/
  lane : ∀ l, (start.run actions).hub.lane l = (start.hub.lane l).run (doings l start actions)
  /-- A client holds a subscription exactly if it is to have a place. -/
  holders : ∀ c ∈ (start.run actions).clients, ∀ l, (c.subscriber? l).isSome = c.isOpen l
  /-- There is a mailbox exactly for what some client holds. -/
  mailboxes : ∀ l id, ((start.run actions).hub.lane l).mailbox? id ≠ none ↔
    ∃ c ∈ (start.run actions).clients, c.subscriber? l = some id
  /-- No two clients hold the same. -/
  distinct : ∀ l i j id, (start.run actions).held i l = some id →
    (start.run actions).held j l = some id → i = j
  /-- Of what a client once held, and holds no more, nothing is left. -/
  released : ∀ early late, actions = early ++ late → ∀ k l id,
    (start.run early).held k l = some id → (start.run actions).held k l ≠ some id →
      ((start.run actions).hub.lane l).mailbox? id = none ∧
        ((start.run actions).hub.lane l).isSubscribed id = false
  /-- Quiet turns publish nothing. -/
  quiet : ∀ k t, t.isQuiet = true → ∀ l, published ((start.run actions).does l (.turn k t)) = []
  /-- Whatever a client does without publishing anything, such as to close or to go away, spares
  what others hold, their places and their queues. -/
  spared : ∀ k t l, published ((start.run actions).does l (.turn k t)) = [] → ∀ j, j ≠ k → ∀ id,
    (start.run actions).held j l = some id →
      ((start.run actions).step (.turn k t)).held j l = some id ∧
      (((start.run actions).step (.turn k t)).hub.lane l).isSubscribed id =
        ((start.run actions).hub.lane l).isSubscribed id ∧
      (((start.run actions).step (.turn k t)).hub.lane l).queued id =
        ((start.run actions).hub.lane l).queued id

/-- Whatever the clients of a hub do, its places are accounted for. -/
theorem places_are_accounted_for (capacity views sockets : Nat) (actions : List (Action ρ)) :
    Accounts (create capacity views sockets) actions := by
  have hstart : (create capacity views sockets : Clientele ρ).Settled :=
    settled_create capacity views sockets
  have hend := hstart.run actions
  constructor
  case lane => exact fun l => hstart.lane_run l actions
  case holders => exact fun c hc l => (hend.intact c hc).isSome_subscriber? l
  case mailboxes =>
    intro l id
    rw [hend.mailbox_iff, exists_held_iff]
  case distinct => exact hend.distinct
  case quiet =>
    intro k t ht l
    unfold does
    dsimp only
    split
    · exact Client.published_does _ _ ht l
    · rfl
  case spared =>
    intro k t l hquiet j hj id hid
    exact hend.spared_of_published_nil hquiet hj hid
  case counts =>
    intro l
    obtain ⟨name, hnew⟩ := Hub.lane_create capacity l
    refine hend.subscriberCount_eq fun id => ?_
    have horderly := hstart.isOrderly_of_mem_doings l actions
    have hlive := Channel.isSubscribed_run_iff_not_evicted name capacity horderly id
    rw [← hnew] at hlive
    rw [hstart.lane_run l actions]
    exact hlive
  case released =>
    rintro early late rfl k l id hheld hgone
    have hearly := hstart.run early
    rw [run_append] at hgone hend ⊢
    have hold : id < ((run (create capacity views sockets) early).hub.lane l).nextId :=
      (hearly.hub.lane l).lt_nextId id ((hearly.mailbox_iff l id).2 ⟨k, hheld⟩)
    -- Whoever else held it now would have held it then.
    refine hend.gone_of_not_held fun j hj => ?_
    have hthen := hearly.held_of_held_run hold hj
    rw [hearly.distinct l j k id hthen hheld] at hj
    exact hgone hj

/-- Of two views of the shared registry one is closed, and then goes away. It gives up its places
once, and the other view keeps its own. -/
example :
    let opening := [.attach, .mount, .act .connect]
    let σ := (create 4 2 0 : Clientele Tape).run
      ((opening.map fun t => .turn 0 (.view t)) ++ (opening.map fun t => .turn 1 (.view t)) ++
        [.turn 0 (.view (.act (.close .disconnected))), .turn 0 (.view .drop)])
    σ.hub.ops.subscriberCount = 1 ∧ σ.hub.commands.subscriberCount = 1 := by
  decide

end Clientele

end LiveMap
