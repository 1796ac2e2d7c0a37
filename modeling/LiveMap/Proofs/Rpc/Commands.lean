import LiveMap.Proofs.Json.Record
import LiveMap.Proofs.Rpc.Effect
import LiveMap.Proofs.Session.Viewing
import LiveMap.Random.Tape
import LiveMap.Random.Uniform
import LiveMap.Socket.View

/-!
# From the parameters of a call to the frame in the browser

A call of one of the methods for the map is turned into a command, the command is published, a tick
of a session takes it from its queue, and it is sent to the browser as a frame. The frame names the
method and lists the fields that the method declares, with the values that the call sent
(`frameOf`); of these only the numbers change, which are read as doubles (`asDoubles`).

The two ends meet in a way of writing the fields of a record that is independent of any method
(`written`): what is read from a value and written again is the value with its numbers as doubles
(`written_of_reads`), and the details of a command are the fields of its parameters, written
(`details_of_action`). What a call sends under other names, and what follows the last field, is not
read at all.

Main statement: `commands_reach_views_as_sent`, for every hub, every such call and every session.
-/

namespace LiveMap

open Json (Record Field FieldType FieldValues)
open Json.Record (given? Reads)

/-! ## Numbers as doubles -/

namespace Json

/-- A number as a double; any other value as it is. -/
def numberAsDouble : Json → Json
  | num n => num (.float n.toFloat)
  | v => v

/-- A value with its numbers as doubles, those of a pair in order. -/
def asDoubles : Json → Json
  | arr items => arr (items.map numberAsDouble)
  | v => v.numberAsDouble

/-- Whether a number is finite as a double; any other value is. -/
def isFiniteNumber : Json → Bool
  | num n => n.toFloat.isFinite
  | _ => true

/-- Whether the number that a value is, or each number of a pair, is finite as a double. -/
def hasFiniteNumbers : Json → Bool
  | arr items => items.all isFiniteNumber
  | v => v.isFiniteNumber

/-- A finite number is sent as it is. -/
theorem ofFloat_of_isFinite {x : Float} (h : x.isFinite = true) : ofFloat x = num (.float x) :=
  if_pos h

end Json

/-! ## Writing the fields of a record -/

/-- What the value of a field is written as, unless the field is absent. -/
def Json.FieldType.write? : (t : FieldType) → t.Value → Option Json
  | text, s => some (.str s)
  | number, x => some (.ofFloat x)
  | pair, p => some p.toJson
  | anyOrNull, v => some v
  | anyIfPresent, o => o
  | anyOptional, o => o
  | textOptional, o => o.map .str

/-- The fields of a record with their values, as they are written. -/
def written : (fields : List Field) → FieldValues fields → List (String × Json)
  | [], _ => []
  | f :: rest, values => optionalMember f.name (f.type.write? values.1) ++ written rest values.2

/-- The fields of a record with what they are given. -/
def named : (fields : List Field) → List (Option Json) → List (String × Json)
  | f :: rest, o :: os => optionalMember f.name o ++ named rest os
  | _, _ => []

/-- A field with its numbers as doubles. -/
def fieldAsDoubles (field : String × Json) : String × Json := (field.1, field.2.asDoubles)

/-- A required field is given something, and what it reads is written as that, with numbers as
doubles. -/
theorem write_of_readField {f : Field} {o : Option Json} {value : f.type.Value}
    (hrequired : f.type.absent? = none) (hread : Record.readField f o = .ok value) :
    ∃ v, o = some v ∧ (v.hasFiniteNumbers = true → f.type.write? value = some v.asDoubles) := by
  obtain ⟨name, type⟩ := f
  cases type with
  | anyOrNull | anyIfPresent | anyOptional | textOptional => cases hrequired
  | text =>
    have ho := Record.readField_text_iff.1 hread
    exact ⟨_, ho, fun _ => rfl⟩
  | number =>
    obtain ⟨n, ho, rfl⟩ := Record.readField_number_iff.1 hread
    refine ⟨_, ho, fun hfinite => ?_⟩
    exact congrArg some (Json.ofFloat_of_isFinite hfinite)
  | pair =>
    obtain ⟨m, n, ho, rfl⟩ := Record.readField_pair_iff.1 hread
    refine ⟨_, ho, fun hfinite => ?_⟩
    obtain ⟨hm, hn⟩ : m.toFloat.isFinite = true ∧ n.toFloat.isFinite = true := by
      simpa [Json.hasFiniteNumbers, Json.isFiniteNumber] using hfinite
    show some (Json.arr [.ofFloat m.toFloat, .ofFloat n.toFloat]) = _
    rw [Json.ofFloat_of_isFinite hm, Json.ofFloat_of_isFinite hn]
    rfl

/-- Required fields that are read and written again are what they were given, with numbers as
doubles. -/
theorem written_of_reads {fields : List Field} {given : List (Option Json)}
    {values : FieldValues fields} (hrequired : ∀ f ∈ fields, f.type.absent? = none)
    (hreads : Reads fields given values)
    (hfinite : ∀ field ∈ named fields given, field.2.hasFiniteNumbers = true) :
    written fields values = (named fields given).map fieldAsDoubles := by
  induction fields generalizing given with
  | nil => cases given <;> rfl
  | cons f rest ih =>
    cases given with
    | nil => exact hreads.elim
    | cons o os =>
      obtain ⟨hfirst, hrest⟩ := hreads
      obtain ⟨v, rfl, hwrite⟩ := write_of_readField (hrequired f List.mem_cons_self) hfirst
      have hhead : f.type.write? values.1 = some v.asDoubles :=
        hwrite (hfinite (f.name, v) List.mem_cons_self)
      have htail := ih (fun g hg => hrequired g (List.mem_cons_of_mem _ hg)) hrest
        fun field hfield => hfinite field (List.mem_cons_of_mem _ hfield)
      rw [written, hhead, htail]
      rfl

/-! ## The details of a command -/

namespace Rpc

/-- Omitted parameters count as an empty object. -/
def orEmpty : Json → Json
  | .null => .obj []
  | v => v

/-- The fields that a method declares, with the values that a call sends for them, in the order of
the declaration. -/
def UnaryMethod.declared (method : UnaryMethod) (params : Json) : List (String × Json) :=
  match method.shape? with
  | none => []
  | some record =>
    match given? record.fields (orEmpty params) with
    | none => []
    | some given => named record.fields given

/-- All fields of all parameters are required. -/
theorem UnaryMethod.required {method : UnaryMethod} {record : Record}
    (h : method.shape? = some record) : ∀ f ∈ record.fields, f.type.absent? = none := by
  cases method <;> cases h <;> decide

/-- Parameters are read as a record, omitted ones as an empty object. -/
theorem readParams_eq (record : Record) (params : Json) :
    readParams record params = record.read (orEmpty params) := by
  cases params <;> rfl

/-- Parameters that are read and written again are the declared fields, with numbers as doubles. -/
theorem UnaryMethod.written_of_readParams {method : UnaryMethod} {record : Record} {params : Json}
    {values : FieldValues record.fields} (hshape : method.shape? = some record)
    (hread : readParams record params = .ok values)
    (hfinite : ∀ field ∈ method.declared params, field.2.hasFiniteNumbers = true) :
    written record.fields values = (method.declared params).map fieldAsDoubles := by
  rw [readParams_eq] at hread
  obtain ⟨given, hgiven, hreads⟩ := Record.exists_given_of_read hread
  have hdeclared : method.declared params = named record.fields given := by
    unfold UnaryMethod.declared
    rw [hshape]
    dsimp only
    rw [hgiven]
  rw [hdeclared] at hfinite ⊢
  exact written_of_reads (UnaryMethod.required hshape) hreads hfinite

/-- The details of a command are the declared fields of the call that asks for it, with numbers as
doubles. -/
theorem UnaryMethod.details_of_action {method : UnaryMethod} {params : Json} {c : MapCommand}
    (h : method.action params = .ok (.issue c))
    (hfinite : ∀ field ∈ method.declared params, field.2.hasFiniteNumbers = true) :
    c.details = (method.declared params).map fieldAsDoubles := by
  cases method with
  | markersList => cases h
  | mapResetView =>
    cases h
    rfl
  | markersAdd | markersUpdate | markersDelete =>
    obtain ⟨values, -, h⟩ := exists_of_bind_eq_ok h
    cases h
  | mapSetView | mapFlyTo | mapFitBounds | mapFlyToBounds | mapSetZoom | mapHighlightMarker =>
    -- A command has the fields of its parameters, under the same names and in the same order.
    obtain ⟨values, hread, h⟩ := exists_of_bind_eq_ok h
    cases h
    exact UnaryMethod.written_of_readParams rfl hread hfinite

/-! ## Calls -/

/-- A call of a method for the map: a request that names it, with parameters that it accepts and in
which all numbers that it declares are finite as doubles. -/
structure MapCall (r : Request) (tag : String) (method : UnaryMethod) : Prop where
  /-- The name is the tag with a prefix. -/
  prefixed : r.method = "map." ++ tag
  /-- It is the name of a unary method. -/
  known : lookup r.method = some (.unary method)
  /-- The parameters are accepted. -/
  accepted : ∃ action, method.action r.params = .ok action
  /-- The numbers are finite. -/
  finite : ∀ field ∈ method.declared r.params, field.2.hasFiniteNumbers = true

/-- The frame that a call is to end up as: it names the method without its prefix, and has the
declared fields with their numbers as doubles, and nothing else. -/
def frameOf (tag : String) (declared : List (String × Json)) : Json :=
  .obj [("event", .str "map-command"),
    ("payload", .obj (("command", .str tag) :: declared.map fieldAsDoubles))]

/-- The method for a command is the name of the command with a prefix. -/
theorem method_eq_prefix_name (c : MapCommand) : c.method = "map." ++ c.name := by
  cases c <;> rfl

variable {hub : Hub} {r : Request} {tag : String} {method : UnaryMethod} {c : MapCommand}

/-- A name that does not start like a name for the map is none. -/
theorem ne_prefix_append {name : String} (h : "map.".toList.isPrefixOf name.toList = false) :
    name ≠ "map." ++ tag := by
  rintro rfl
  have hprefix : "map.".toList.isPrefixOf ("map." ++ tag).toList = true := by
    rw [String.toList_append]
    exact List.isPrefixOf_iff_prefix.2 (List.prefix_append _ _)
  exact absurd (h.symm.trans hprefix) Bool.false_ne_true

/-- The methods for the map ask for commands. -/
theorem UnaryMethod.exists_issue_of_action {params : Json} {action : Action}
    (h : method.action params = .ok action) (hname : method.name = "map." ++ tag) :
    ∃ c, action = .issue c := by
  cases method with
  | markersAdd | markersUpdate | markersDelete | markersList =>
    exact absurd hname (ne_prefix_append (by decide))
  | mapResetView =>
    cases h
    exact ⟨_, rfl⟩
  | mapSetView | mapFlyTo | mapFitBounds | mapFlyToBounds | mapSetZoom | mapHighlightMarker =>
    obtain ⟨values, -, h⟩ := exists_of_bind_eq_ok h
    cases h
    exact ⟨_, rfl⟩

/-- A call asks for a command, which is named by its tag. -/
theorem MapCall.exists_command (h : MapCall r tag method) :
    ∃ c, method.action r.params = .ok (.issue c) ∧ c.name = tag := by
  obtain ⟨action, haction⟩ := h.accepted
  have hname : method.name = "map." ++ tag := (name_of_lookup h.known).symm.trans h.prefixed
  obtain ⟨c, rfl⟩ := UnaryMethod.exists_issue_of_action haction hname
  have hmethod : "map." ++ c.name = "map." ++ tag := by
    rw [← method_eq_prefix_name, ← UnaryMethod.name_of_action haction, hname]
  exact ⟨c, haction, (String.append_right_inj "map.").1 hmethod⟩

/-- The command that a call asks for is sent to the browser as the frame of the call. -/
theorem MapCall.toJson_eq_frameOf (h : MapCall r tag method)
    (hc : method.action r.params = .ok (.issue c)) :
    (ViewMessage.delta (.command c)).toJson = frameOf tag (method.declared r.params) := by
  obtain ⟨c', hc', hname⟩ := h.exists_command
  cases hc.symm.trans hc'
  have hdetails : c.details = (method.declared r.params).map fieldAsDoubles :=
    UnaryMethod.details_of_action hc h.finite
  calc (ViewMessage.delta (.command c)).toJson
    _ = .obj [("event", .str "map-command"),
          ("payload", .obj (("command", .str c.name) :: c.details))] := rfl
    _ = frameOf tag (method.declared r.params) := by rw [hname, hdetails, frameOf]

/-- Frames of calls tell the methods and the declared fields apart. -/
theorem frameOf_inj {tag' : String} {fields fields' : List (String × Json)}
    (h : frameOf tag fields = frameOf tag' fields') :
    tag = tag' ∧ fields.map fieldAsDoubles = fields'.map fieldAsDoubles := by
  simp only [frameOf, Json.obj.injEq, List.cons.injEq, Prod.mk.injEq, Json.str.injEq, true_and,
    and_true] at h
  exact h

/-- A call publishes the command that it asks for, and does nothing else to the hub. -/
theorem MapCall.commandCommit (h : MapCall r tag method)
    (hc : method.action r.params = .ok (.issue c)) (hub : Hub) :
    CommandCommit hub c (dispatch hub r).2 := by
  have haction : r.action? = some (.issue c) := by
    rw [Request.action?, h.known]
    dsimp only
    rw [hc]
    rfl
  have hdispatch : (dispatch hub r).2 = (hub.issueCommand c).2 := by
    rw [hub_dispatch, haction]
    rfl
  rw [hdispatch]
  exact commandCommit_issueCommand hub c

end Rpc

/-! ## Ticks -/

variable {ρ : Type} [FleetDraws ρ]

/-- Asking the source leaves the subscription to commands and their channel alone. -/
theorem Session.commands_of_pollSource {s s' : Session ρ} {hub hub' : Hub} {op : Option MarkerOp}
    {ended : Bool} (h : s.pollSource hub = .ok (op, ended, s', hub')) :
    s'.commands = s.commands ∧ hub'.commands = hub.commands := by
  unfold pollSource at h
  split at h
  · cases h
    exact ⟨rfl, rfl⟩
  · next source _ =>
    obtain ⟨⟨op', source', hub₁⟩, hp, h⟩ := exists_of_bind_eq_ok h
    cases h
    obtain ⟨-, rfl, -⟩ := poll_spec hp
    exact ⟨rfl, rfl⟩

/-- A tick of a connected session shows the command that is queued first for it, after at most one
change of a marker. -/
theorem Session.deltas_of_tick {s s' : Session ρ} {hub hub' : Hub} {deltas : List ViewDelta}
    {id : SubscriberId} {c : MapCommand} {rest : List MapCommand}
    (h : s.tick hub = .ok (deltas, s', hub')) (hc : s.isConnected = true)
    (hid : s.commands = some id) (hq : hub.commands.queued id = c :: rest) :
    ∃ op : Option MarkerOp, deltas = (op.map .ofOp).toList ++ [.command c] := by
  obtain ⟨hnot, -⟩ | ⟨-, op, ended, s₁, hub₁, hp, rfl, -⟩ := tick_cases h
  · rw [hc] at hnot
    cases hnot
  · obtain ⟨hsub, hchannel⟩ := commands_of_pollSource hp
    have hsub₁ : s₁.commands = some id := hsub.trans hid
    have hfirst : (s₁.pollCommands hub₁).1 = some c := by
      rw [pollCommands_eq, hsub₁, hchannel]
      show (hub.commands.queued id).head? = some c
      rw [hq]
      rfl
    exact ⟨op, by rw [hfirst]; rfl⟩

/-- A tick of a view socket sends what the tick of its session shows. -/
theorem ViewSocket.session_of_tick {socket socket' : ViewSocket ρ} {hub hub' : Hub}
    {messages : List ViewMessage} {verdict : Verdict}
    (h : socket.tick hub = .ok (messages, verdict, socket', hub')) :
    ∃ deltas, socket.session.tick hub = .ok (deltas, socket'.session, hub') ∧
      messages = deltas.map .delta := by
  obtain ⟨⟨deltas, s', hub₁⟩, htick, h⟩ := exists_of_bind_eq_ok h
  cases h
  exact ⟨deltas, htick, rfl⟩

namespace Rpc

/-! ## The way of a command -/

/-- How a call reaches the views, as one command. -/
structure ReachesViews (ρ : Type) [FleetDraws ρ] (hub : Hub) (r : Request) (tag : String)
    (method : UnaryMethod) (c : MapCommand) : Prop where
  /-- It is what the parameters ask for. -/
  asked : method.action r.params = .ok (.issue c)
  /-- It is published once, and nothing else happens to the hub. -/
  published : CommandCommit hub c (dispatch hub r).2
  /-- It is queued last for every view that has room. -/
  queued : hub.commands.Valid → ∀ id, hub.commands.isSubscribed id = true →
    (hub.commands.queued id).length < hub.commands.capacity →
      (dispatch hub r).2.commands.queued id = hub.commands.queued id ++ [c]
  /-- A tick of a connected session that has it first in its queue sends it, after at most one
  change of a marker. -/
  delivered : ∀ (socket socket' : ViewSocket ρ) (hub₁ hub₂ : Hub) (id : SubscriberId) rest messages
    verdict, socket.session.isConnected = true → socket.session.commands = some id →
    hub₁.commands.queued id = c :: rest →
    socket.tick hub₁ = .ok (messages, verdict, socket', hub₂) →
      ∃ op : Option MarkerOp,
        messages = (op.map fun op => .delta (.ofOp op)).toList ++ [.delta (.command c)]
  /-- For a session over the shared registry there is always such a tick. -/
  ticks : ∀ (socket : ViewSocket ρ) (hub₁ : Hub) (ops : SubscriberId),
    socket.session.source = some (.shared ops) → ∃ result, socket.tick hub₁ = .ok result
  /-- It is sent as the frame that names the method and has the declared fields, and nothing
  else. -/
  sentAs : (ViewMessage.delta (.command c)).toJson = frameOf tag (method.declared r.params)
  /-- A call that ends up as the same frame names the same method and sends the same declared
  fields, with numbers as doubles. -/
  distinct : ∀ r' tag' method' c', MapCall r' tag' method' →
    method'.action r'.params = .ok (.issue c') →
    (ViewMessage.delta (.command c')).toJson = (ViewMessage.delta (.command c)).toJson →
      method' = method ∧ (method'.declared r'.params).map fieldAsDoubles =
        (method.declared r.params).map fieldAsDoubles

/-- On every hub, every call of a method for the map reaches every view as a command under the
method's own name, with the fields that the call sent. -/
theorem commands_reach_views_as_sent (hub : Hub) {r : Request} {tag : String} {method : UnaryMethod}
    (h : MapCall r tag method) : ∃ c, ReachesViews ρ hub r tag method c := by
  obtain ⟨c, hc, -⟩ := h.exists_command
  have hcommit := h.commandCommit hc hub
  refine ⟨c, hc, hcommit, ?_, ?_, ?_, h.toJson_eq_frameOf hc, ?_⟩
  · intro hv id hlive hroom
    rw [(hcommit.shown hv).live id hlive, if_neg (Nat.ne_of_lt hroom)]
  · intro socket socket' hub₁ hub₂ id rest messages verdict hconnected hid hq htick
    -- What the session shows is turned into messages one by one.
    obtain ⟨deltas, hsession, rfl⟩ := ViewSocket.session_of_tick htick
    obtain ⟨op, rfl⟩ := Session.deltas_of_tick hsession hconnected hid hq
    refine ⟨op, ?_⟩
    cases op <;> rfl
  · intro socket hub₁ ops hsource
    have hshared : (Watch.mounted socket.session).IsShared := by
      intro source hs
      exact ⟨ops, Option.some.inj (hs.symm.trans hsource)⟩
    obtain ⟨result, htick⟩ := Session.exists_tick_eq_ok hshared hub₁
    exact ⟨_, bind_eq_ok_of htick rfl⟩
  · intro r' tag' method' c' h' hc' hframe
    rw [h'.toJson_eq_frameOf hc', h.toJson_eq_frameOf hc] at hframe
    obtain ⟨rfl, hfields⟩ := frameOf_inj hframe
    -- The same name is looked up for both.
    have hname : r'.method = r.method := h'.prefixed.trans h.prefixed.symm
    have hknown := h'.known
    rw [hname, h.known] at hknown
    cases hknown
    exact ⟨rfl, hfields⟩

/-- A call with one field more than the method declares. -/
def flyToCall : Request where
  jsonrpc := some "2.0"
  id := some (.num (.int 1))
  method := "map.flyTo"
  params := .obj [("latLng", .arr [.num (.float 40.75), .num (.int (-74))]),
    ("speed", .str "fast"), ("zoom", .num (.int 9))]

/-- The call reaches views as a command with the two fields that the method declares. -/
theorem flyToCall_reaches_views : MapCall flyToCall "flyTo" .mapFlyTo ∧
    ∃ c, ReachesViews Tape (Hub.create 16) flyToCall "flyTo" .mapFlyTo c := by
  have hcall : MapCall flyToCall "flyTo" .mapFlyTo :=
    ⟨by decide, rfl, ⟨_, rfl⟩, by decide⟩
  exact ⟨hcall, commands_reach_views_as_sent (Hub.create 16) hcall⟩

end Rpc

end LiveMap
