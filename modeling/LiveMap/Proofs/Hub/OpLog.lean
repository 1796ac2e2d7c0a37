import LiveMap.Proofs.Hub.Run
import Mathlib.Data.List.Induction

/-!
# The log of operations is the registry

The operations that the calls of a run return are its log. The log is what the run publishes on the
channel of operations, and its reports are the reports that it publishes on the channel of events,
in the same order, with what users did in between. Replayed over the empty chart the log gives what
the registry shows; at each point it moves and removes only what is shown there, and a move carries
the name of the last addition. What the log leaves out, the motion of a stored marker, is that of
the last call that added it.

Main statement: `op_log_is_registry`, for every run of every new hub.
-/

namespace LiveMap

/-! ## Coherent lists of operations -/

/-- Whether an operation is about what a chart shows: a move or a removal needs something under its
id, and a move names it. -/
def Chart.Fits (c : Chart) : MarkerOp → Prop
  | .add .. => True
  | .update id name _ => ∃ pin, c id = some pin ∧ pin.name = name
  | .delete id => c id ≠ none

/-- Whether each operation of a list is about what is shown when its turn comes. -/
def Chart.Coherent : Chart → List MarkerOp → Prop
  | _, [] => True
  | c, op :: ops => c.Fits op ∧ Coherent (c.apply op) ops

theorem Chart.Coherent.append {c : Chart} {first second : List MarkerOp} (h₁ : c.Coherent first)
    (h₂ : (c.replay first).Coherent second) : c.Coherent (first ++ second) := by
  induction first generalizing c with
  | nil => exact h₂
  | cons op first ih => exact ⟨h₁.1, ih h₁.2 h₂⟩

/-- Each operation of a coherent list fits the chart that those before it make. -/
theorem Chart.Coherent.fits {c : Chart} {earlier later : List MarkerOp} {op : MarkerOp}
    (h : c.Coherent (earlier ++ op :: later)) : (c.replay earlier).Fits op := by
  induction earlier generalizing c with
  | nil => exact h.1
  | cons _ earlier ih => exact ih h.2

/-- The name that an operation gives to an id. -/
def MarkerOp.addedName? (id : String) : MarkerOp → Option String
  | .add i name _ => if i = id then some name else none
  | .update .. | .delete .. => none

/-- The name that the last addition of an id among some operations gives to it. -/
def lastName? (id : String) (ops : List MarkerOp) : Option String :=
  ops.reverse.findSome? (MarkerOp.addedName? id)

/-- What a replay shows under an id has the name that the last addition of the id gave to it. -/
theorem lastName?_of_replay {ops : List MarkerOp} {id : String} {pin : Pin}
    (h : Chart.empty.replay ops id = some pin) : lastName? id ops = some pin.name := by
  -- The induction is from the end, where the search for the last addition starts.
  induction ops using List.reverseRecOn generalizing pin with
  | nil => cases h
  | append_singleton ops op ih =>
    rw [Chart.replay_append, Chart.replay_cons, Chart.replay_nil] at h
    rw [lastName?, List.reverse_append, List.reverse_singleton, List.singleton_append,
      List.findSome?_cons]
    by_cases hid : id = op.id
    · cases op with
      | add i name position =>
        have hi : id = i := hid
        subst hi
        rw [Chart.apply, Function.update_self] at h
        cases h
        rw [MarkerOp.addedName?, if_pos rfl]
      | update i name position =>
        have hi : id = i := hid
        subst hi
        rw [Chart.apply, Function.update_self] at h
        obtain ⟨old, hold, rfl⟩ := Option.map_eq_some_iff.1 h
        have hname : lastName? id ops = some old.name := ih hold
        exact hname
      | delete i =>
        have hi : id = i := hid
        subst hi
        rw [Chart.apply, Function.update_self] at h
        cases h
    · -- An operation about another id adds nothing under this one.
      rw [Chart.apply_of_ne _ hid] at h
      have hnone : op.addedName? id = none := by
        cases op with
        | add i name position => exact if_neg (Ne.symm hid)
        | update i name position => rfl
        | delete i => rfl
      rw [hnone]
      exact ih h

/-- The operation that a mutation yields is about what the registry shows. -/
theorem Registry.Valid.fits_commit {r : Registry} (hv : r.Valid) {mutation : Mutation}
    {op : MarkerOp} (h : (r.commit mutation).1 = some op) : r.chart.Fits op := by
  obtain ⟨-, hc⟩ | ⟨m, -, hc⟩ | ⟨m, position, -, hm, -, hc⟩ | ⟨m, -, hm, -, hc⟩ :=
    commit_cases hv mutation <;> rw [hc] at h <;> cases h
  · exact trivial
  · exact ⟨m.pin, by rw [chart, hm, Option.map_some], rfl⟩
  · show r.chart m.id ≠ none
    rw [chart, hm, Option.map_some]
    exact Option.some_ne_none _

namespace Hub

open Channel (published received)

/-! ## What a run publishes -/

/-- The reports of operations among some events. -/
def reports (events : List MapEvent) : List MarkerOpEvent := events.filterMap MapEvent.markerOp?

/-- Publications publish their items. -/
theorem published_map {α β : Type} (f : β → α) (items : List β) :
    published (items.map fun b => .publish (f b)) = items.map f := by
  induction items with
  | nil => rfl
  | cons b items ih =>
    rw [List.map_cons, Channel.published_cons, ih]
    rfl

/-- On the channel of operations an action publishes what it returns. -/
theorem published_onOps (hub : Hub) (a : Action) : published (onOps hub a) = returned hub a := by
  cases a with
  | mutate mutation =>
    show published (List.map (fun op => .publish (id op)) _) = _
    rw [published_map, List.map_id]
    rfl
  | issue command => rfl
  | interact interaction => rfl
  | listenOps l => rfl
  | listenCommands l => rfl
  | listenEvents l => rfl

/-- On the channel of events an action reports what it returns. -/
theorem reports_onEvents (hub : Hub) (a : Action) :
    reports (published (onEvents hub a)) = (returned hub a).map .ofOp := by
  cases a with
  | mutate mutation =>
    show reports (published (List.map (fun op => .publish (.markerOp (.ofOp op))) _)) = _
    rw [published_map (fun op => MapEvent.markerOp (.ofOp op)), reports, List.filterMap_map]
    exact congrFun List.filterMap_eq_map' _
  | issue command => rfl
  | interact interaction => cases interaction <;> rfl
  | listenOps l => rfl
  | listenCommands l => rfl
  | listenEvents l => rfl

/-- On the channel of operations a run publishes its log. -/
theorem published_trace_onOps (hub : Hub) (actions : List Action) :
    published (trace onOps hub actions) = log hub actions := by
  induction actions generalizing hub with
  | nil => rfl
  | cons a rest ih => rw [trace, Channel.published_append, published_onOps, ih, log, trace]

/-- On the channel of events a run reports its log. -/
theorem reports_trace_onEvents (hub : Hub) (actions : List Action) :
    reports (published (trace onEvents hub actions)) = (log hub actions).map .ofOp := by
  induction actions generalizing hub with
  | nil => rfl
  | cons a rest ih =>
    rw [trace, Channel.published_append, reports, List.filterMap_append, ← reports, ← reports,
      reports_onEvents, ih, log, trace, List.map_append]

/-! ## What listeners hear -/

/-- Whoever has subscribed to the operations and is still live has received, or has queued, exactly
the operations that the calls since then have returned. -/
theorem Valid.ops_heard {hub : Hub} (hv : hub.Valid) (after : List Action)
    (hlive : ((hub.act (.listenOps .subscribe)).run after).ops.isSubscribed hub.ops.nextId = true) :
    received hub.ops.nextId hub.ops.subscribe.2
        (trace onOps (hub.act (.listenOps .subscribe)) after) ++
      ((hub.act (.listenOps .subscribe)).run after).ops.queued hub.ops.nextId =
    log (hub.act (.listenOps .subscribe)) after := by
  rw [ops_run] at hlive ⊢
  have hheard := Channel.received_append_queued_of_live hv.ops.subscribe (Nat.lt_succ_self _) hlive
  rw [Channel.queued_subscribe_self hv.ops, List.nil_append, published_trace_onOps] at hheard
  exact hheard

/-- Whoever has subscribed to the events and is still live has received, or has queued, a report of
each operation that the calls since then have returned, in order. -/
theorem Valid.events_heard {hub : Hub} (hv : hub.Valid) (after : List Action)
    (hlive : ((hub.act (.listenEvents .subscribe)).run after).events.isSubscribed
      hub.events.nextId = true) :
    reports (received hub.events.nextId hub.events.subscribe.2
        (trace onEvents (hub.act (.listenEvents .subscribe)) after) ++
      ((hub.act (.listenEvents .subscribe)).run after).events.queued hub.events.nextId) =
    (log (hub.act (.listenEvents .subscribe)) after).map .ofOp := by
  rw [events_run] at hlive ⊢
  have hheard := Channel.received_append_queued_of_live hv.events.subscribe (Nat.lt_succ_self _)
    hlive
  rw [Channel.queued_subscribe_self hv.events, List.nil_append] at hheard
  rw [← reports_trace_onEvents, ← hheard]
  rfl

/-! ## What the log says of the registry -/

/-- The log of a run is coherent, and replaying it turns what the registry showed at first into what
it shows in the end. -/
theorem Valid.log_spec {hub : Hub} (hv : hub.Valid) (actions : List Action) :
    hub.registry.chart.Coherent (log hub actions) ∧
      hub.registry.chart.replay (log hub actions) = (hub.run actions).registry.chart := by
  induction actions generalizing hub with
  | nil => exact ⟨trivial, rfl⟩
  | cons a rest ih =>
    obtain ⟨hcoherent, hreplay⟩ := ih (hv.act a)
    -- Only a mutation returns something, and it is what its commit yields.
    have hstep : hub.registry.chart.Coherent (returned hub a) ∧
        hub.registry.chart.replay (returned hub a) = (hub.act a).registry.chart := by
      rw [registry_act]
      cases a with
      | mutate mutation =>
        rw [returned, perform_fst]
        refine ⟨?_, (hv.registry.chart_commit mutation).symm⟩
        cases hop : (hub.registry.commit mutation).1 with
        | none => exact trivial
        | some op => exact ⟨hv.registry.fits_commit hop, trivial⟩
      | issue command => exact ⟨trivial, rfl⟩
      | interact interaction => exact ⟨trivial, rfl⟩
      | listenOps l => exact ⟨trivial, rfl⟩
      | listenCommands l => exact ⟨trivial, rfl⟩
      | listenEvents l => exact ⟨trivial, rfl⟩
    rw [← hstep.2] at hcoherent hreplay
    rw [log, trace, Chart.replay_append, run_cons]
    exact ⟨hstep.1.append hcoherent, hreplay⟩

/-- The marker that an action adds under an id. -/
def Action.added? (id : String) : Action → Option (Marker Float)
  | .mutate (.add m) => if m.id = id then some m else none
  | _ => none

/-- The marker of the last call that adds one under an id. -/
def lastAdded? (id : String) (actions : List Action) : Option (Marker Float) :=
  actions.reverse.findSome? (Action.added? id)

/-- A stored marker was stored by an action that adds it, or it was stored before, with the same
name and motion, and the action adds none under its id. -/
theorem Valid.stored_act {hub : Hub} (hv : hub.Valid) (a : Action) {id : String}
    {m : Marker Float} (h : (hub.act a).registry.find? id = some m) :
    a.added? id = some m ∨
      ∃ old, hub.registry.find? id = some old ∧ m.name = old.name ∧ m.motion = old.motion ∧
        a.added? id = none := by
  rw [registry_act] at h
  cases a with
  | mutate mutation =>
    replace h : (hub.registry.commit mutation).2.find? id = some m := h
    by_cases hid : id = mutation.id
    · subst hid
      rw [hv.registry.find?_commit_self] at h
      cases mutation with
      | add m' =>
        cases h
        exact Or.inl (if_pos rfl)
      | update id position =>
        obtain ⟨old, hold, rfl⟩ := Option.map_eq_some_iff.1 h
        exact Or.inr ⟨old, hold, rfl, rfl, rfl⟩
      | updateMoving id position =>
        obtain ⟨old, hold, rfl⟩ := Option.map_eq_some_iff.1 h
        refine Or.inr ⟨old, hold, ?_, ?_, rfl⟩
        · split <;> rfl
        · split <;> rfl
      | delete id => cases h
      | deleteMoving id =>
        obtain ⟨hkept, -⟩ := Option.filter_eq_some_iff.1 h
        exact Or.inr ⟨m, hkept, rfl, rfl, rfl⟩
    · rw [hv.registry.find?_commit_of_ne hid] at h
      refine Or.inr ⟨m, h, rfl, rfl, ?_⟩
      cases mutation with
      | add m' => exact if_neg (Ne.symm hid)
      | update | updateMoving | delete | deleteMoving => rfl
  | issue command => exact Or.inr ⟨m, h, rfl, rfl, rfl⟩
  | interact interaction => exact Or.inr ⟨m, h, rfl, rfl, rfl⟩
  | listenOps l => exact Or.inr ⟨m, h, rfl, rfl, rfl⟩
  | listenCommands l => exact Or.inr ⟨m, h, rfl, rfl, rfl⟩
  | listenEvents l => exact Or.inr ⟨m, h, rfl, rfl, rfl⟩

/-- A marker that a run has stored has the name and the motion that the last call gave to it that
added one under its id. -/
theorem stored_run (capacity : Nat) (actions : List Action) {id : String} {m : Marker Float}
    (h : ((create capacity).run actions).registry.find? id = some m) :
    ∃ added, lastAdded? id actions = some added ∧ m.name = added.name ∧
      m.motion = added.motion := by
  induction actions using List.reverseRecOn generalizing m with
  | nil => cases h
  | append_singleton actions a ih =>
    rw [run_append] at h
    rw [lastAdded?, List.reverse_append, List.reverse_singleton, List.singleton_append,
      List.findSome?_cons]
    rcases ((valid_create capacity).run actions).stored_act a h with
      hadd | ⟨old, hold, hname, hmotion, hnone⟩
    · rw [hadd]
      exact ⟨m, rfl, rfl, rfl⟩
    · obtain ⟨added, hadded, hname', hmotion'⟩ := ih hold
      rw [hnone]
      exact ⟨added, hadded, hname.trans hname', hmotion.trans hmotion'⟩

/-! ## The log of a new hub -/

/-- What the log of a run says of the channels and of the registry. -/
structure OpLog (start : Hub) (actions : List Action) : Prop where
  /-- A call returns the operation that announces its change. Without a change it returns nothing
  and leaves the hub as it was. -/
  returns : ∀ before mutation after, actions = before ++ .mutate mutation :: after →
    ((start.run before).perform mutation).1 = mutation.outcome (start.run before).registry ∧
      (mutation.outcome (start.run before).registry = none →
        (start.run before).act (.mutate mutation) = start.run before)
  /-- Among what its subscribers do, the channel of operations undergoes the publication of what the
  calls return, one by one, and nothing else. -/
  ops : (start.run actions).ops = start.ops.run (trace onOps start actions) ∧
    published (trace onOps start actions) = log start actions
  /-- Among what its subscribers do, the channel of events undergoes publications that report what
  the calls return, one by one, and others that report no operation. -/
  events : (start.run actions).events = start.events.run (trace onEvents start actions) ∧
    reports (published (trace onEvents start actions)) = (log start actions).map .ofOp
  /-- A subscriber of the operations that is not cut off gets what the calls return. -/
  ops_heard : ∀ before after, actions = before ++ .listenOps .subscribe :: after →
    let hub := start.run before
    let joined := hub.act (.listenOps .subscribe)
    (start.run actions).ops.isSubscribed hub.ops.subscribe.1 = true →
      received hub.ops.subscribe.1 joined.ops (trace onOps joined after) ++
        (start.run actions).ops.queued hub.ops.subscribe.1 = log joined after
  /-- A subscriber of the events that is not cut off gets the reports of what the calls return. -/
  events_heard : ∀ before after, actions = before ++ .listenEvents .subscribe :: after →
    let hub := start.run before
    let joined := hub.act (.listenEvents .subscribe)
    (start.run actions).events.isSubscribed hub.events.subscribe.1 = true →
      reports (received hub.events.subscribe.1 joined.events (trace onEvents joined after) ++
        (start.run actions).events.queued hub.events.subscribe.1) = (log joined after).map .ofOp
  /-- The log replayed over the empty chart gives what the registry shows. -/
  replay : Chart.empty.replay (log start actions) = (start.run actions).registry.chart
  /-- Whatever is moved or removed is shown at that point of the replay. -/
  present : ∀ earlier op later, log start actions = earlier ++ op :: later → op.kind ≠ .add →
    Chart.empty.replay earlier op.id ≠ none
  /-- A move carries the name of the last addition of its id. -/
  names : ∀ earlier id name position later,
    log start actions = earlier ++ .update id name position :: later →
      lastName? id earlier = some name
  /-- A stored marker is filed under its own id, with the name and the motion of the last call that
  added it. -/
  stored : ∀ id m, (start.run actions).registry.find? id = some m →
    m.id = id ∧ ∃ added, lastAdded? id actions = some added ∧ m.name = added.name ∧
      m.motion = added.motion

/-- For every run of every new hub, the log of operations is the registry. -/
theorem op_log_is_registry (capacity : Nat) (actions : List Action) :
    OpLog (create capacity) actions := by
  have hv := valid_create capacity
  obtain ⟨hcoherent, hreplay⟩ := hv.log_spec actions
  have hempty : (create capacity).registry.chart = Chart.empty := rfl
  rw [hempty] at hcoherent hreplay
  constructor
  case returns =>
    intro before mutation after _
    have hv' := hv.run before
    constructor
    · rw [perform_fst, hv'.registry.commit_fst]
    · intro hnone
      rw [act, hv'.perform_of_outcome_none hnone]
  case ops => exact ⟨ops_run _ actions, published_trace_onOps _ actions⟩
  case events => exact ⟨events_run _ actions, reports_trace_onEvents _ actions⟩
  case ops_heard =>
    intro before after hsplit hub joined hlive
    rw [hsplit, run_append, run_cons] at hlive ⊢
    exact (hv.run before).ops_heard after hlive
  case events_heard =>
    intro before after hsplit hub joined hlive
    rw [hsplit, run_append, run_cons] at hlive ⊢
    exact (hv.run before).events_heard after hlive
  case replay => exact hreplay
  case present =>
    intro earlier op later hlog hkind
    rw [hlog] at hcoherent
    have hfits := hcoherent.fits
    cases op with
    | add i name position => exact absurd rfl hkind
    | update i name position =>
      obtain ⟨pin, hpin, -⟩ := hfits
      show Chart.empty.replay earlier i ≠ none
      rw [hpin]
      exact Option.some_ne_none pin
    | delete i => exact hfits
  case names =>
    intro earlier id name position later hlog
    rw [hlog] at hcoherent
    obtain ⟨pin, hpin, hname⟩ := hcoherent.fits
    rw [lastName?_of_replay hpin, hname]
  case stored =>
    intro id m hm
    exact ⟨(hv.run actions).registry.filed id m hm, stored_run capacity actions hm⟩

end Hub

end LiveMap
