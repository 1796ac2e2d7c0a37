import LiveMap.Proofs.Json.Record
import LiveMap.Rpc.Message

/-!
# The envelope of a request

A text is a request exactly if it is an object that names a method by a text and no version but the
one that every message names (`IsEnvelope`). Four members matter and all others are ignored. They
treat absence and null differently: an id of null is an id, a version of null is none, and absent
parameters are parameters of null (`Request.Holds`).

Every other text is refused, and the refusal can be sent as it is. The id of a refused value is
looked up before the value is read as a request and apart from it, so the three ways of refusing a
value agree on it (`Refused`).

Main statement: `texts_are_read_as_envelopes`.
-/

namespace LiveMap.Rpc

open Json.Record (Reads present? present?_eq_none_iff present?_eq_some_str_iff
  readField_textOptional_iff readField_anyIfPresent_iff readField_text_iff readField_anyOrNull_iff)

/-- Whether an object is the envelope of a request. -/
structure IsEnvelope (members : List (String × Json)) : Prop where
  /-- The method is a text. -/
  method : ∃ name, Keyed.find? "method" members = some (.str name)
  /-- The version is absent, null, or the one that every message names. -/
  version : Keyed.find? "jsonrpc" members = none ∨ Keyed.find? "jsonrpc" members = some .null ∨
    Keyed.find? "jsonrpc" members = some (.str "2.0")

/-- Whether a request holds what the members of an object say. -/
structure Request.Holds (r : Request) (members : List (String × Json)) : Prop where
  /-- The version is a text, or there is none: its member is absent or null. -/
  jsonrpc : present? (Keyed.find? "jsonrpc" members) = r.jsonrpc.map .str
  /-- The id is the member of this name. It is absent only if the member is. -/
  id : r.id = Keyed.find? "id" members
  /-- The method is the member of this name. -/
  method : Keyed.find? "method" members = some (.str r.method)
  /-- The parameters are the member of this name, or null if it is absent. -/
  params : r.params = (Keyed.find? "params" members).getD .null

/-- The members that matter. -/
def envelopeKeys : List String := ["jsonrpc", "id", "method", "params"]

/-- Why a value is refused as a request, in words. -/
inductive Refused (v : Json) : (message : String) → Prop where
  /-- It is not an object. -/
  | notObject (h : Request.isObject v = false) : Refused v "request must be a JSON object"
  /-- A member that matters is missing or of a wrong type. -/
  | unreadable (fault : Json.RecordFault) (h : Request.ofJson v = .error fault) :
    Refused v fault.message
  /-- It names another version. -/
  | unsupported (named : String) (h : v.member? "jsonrpc" = some (.str named))
    (hne : named ≠ "2.0") : Refused v ("unsupported jsonrpc version: " ++ named)

variable {members members' : List (String × Json)} {r : Request} {v : Json} {text : String}

/-! ## Reading an object -/

/-- A request is read from an object with distinct keys exactly if it holds what the members
say. -/
theorem ofJson_eq_ok_iff (hd : (members.map Prod.fst).Nodup) :
    Request.ofJson (.obj members) = .ok r ↔ r.Holds members := by
  constructor
  · intro h
    obtain ⟨⟨jsonrpc, id, method, params, _⟩, hread, h⟩ := exists_of_bind_eq_ok h
    cases h
    obtain ⟨hjsonrpc, hid, hmethod, hparams, -⟩ := (Json.Record.read_obj_eq_ok_iff hd).1 hread
    exact ⟨readField_textOptional_iff.1 hjsonrpc, readField_anyIfPresent_iff.1 hid,
      readField_text_iff.1 hmethod, readField_anyOrNull_iff.1 hparams⟩
  · intro h
    have hreads : Reads Request.shape.fields
        (Request.shape.fields.map fun f => Keyed.find? f.name members)
        (r.jsonrpc, r.id, r.method, r.params, ()) :=
      ⟨readField_textOptional_iff.2 h.jsonrpc, readField_anyIfPresent_iff.2 h.id,
        readField_text_iff.2 h.method, readField_anyOrNull_iff.2 h.params, trivial⟩
    exact bind_eq_ok_of ((Json.Record.read_obj_eq_ok_iff hd).2 hreads) rfl

/-- An object with distinct keys is accepted exactly if a request holds what its members say and
names no other version. -/
theorem ofValue_obj_eq_ok_iff (hd : (members.map Prod.fst).Nodup) :
    Request.ofValue (.obj members) = .ok r ↔
      r.Holds members ∧ (r.jsonrpc = none ∨ r.jsonrpc = some version) := by
  rw [← ofJson_eq_ok_iff hd, Request.ofValue]
  cases Request.ofJson (.obj members) with
  | error fault => simp [Request.isObject]
  | ok request =>
    simp only [Request.isObject, if_true, Except.ok.injEq]
    cases hv : request.jsonrpc with
    | none =>
      simp only [Except.ok.injEq]
      exact ⟨fun h => ⟨h, Or.inl (h ▸ hv)⟩, fun h => h.1⟩
    | some named =>
      by_cases hnamed : named = version
      · simp only [if_pos hnamed, Except.ok.injEq]
        exact ⟨fun h => ⟨h, Or.inr (h ▸ hnamed ▸ hv)⟩, fun h => h.1⟩
      · simp only [if_neg hnamed, reduceCtorEq, false_iff]
        rintro ⟨rfl, h | h⟩
        · rw [hv] at h
          cases h
        · rw [hv] at h
          exact hnamed (Option.some.inj h)

/-- An object whose members a request holds is an envelope exactly if the request names no other
version. -/
theorem Request.Holds.isEnvelope_iff (h : r.Holds members) :
    IsEnvelope members ↔ r.jsonrpc = none ∨ r.jsonrpc = some version := by
  have hfield := h.jsonrpc
  constructor
  · rintro ⟨-, habsent | hnull | hnamed⟩
    · rw [present?_eq_none_iff.2 (Or.inl habsent)] at hfield
      exact Or.inl (Option.map_eq_none_iff.1 hfield.symm)
    · rw [present?_eq_none_iff.2 (Or.inr hnull)] at hfield
      exact Or.inl (Option.map_eq_none_iff.1 hfield.symm)
    · rw [present?_eq_some_str_iff.2 hnamed] at hfield
      obtain ⟨named, hsome, hstr⟩ := Option.map_eq_some_iff.1 hfield.symm
      cases hstr
      exact Or.inr hsome
  · rintro (hnone | hsome)
    · rw [hnone] at hfield
      refine ⟨⟨r.method, h.method⟩, ?_⟩
      rcases present?_eq_none_iff.1 hfield with habsent | hnull
      · exact Or.inl habsent
      · exact Or.inr (Or.inl hnull)
    · rw [hsome] at hfield
      exact ⟨⟨r.method, h.method⟩, Or.inr (Or.inr (present?_eq_some_str_iff.1 hfield))⟩

/-- Some request holds the members of an envelope. -/
theorem IsEnvelope.exists_holds (h : IsEnvelope members) : ∃ r : Request, r.Holds members := by
  obtain ⟨⟨name, hname⟩, habsent | hnull | hnamed⟩ := h
  · exact ⟨⟨none, _, name, _⟩, present?_eq_none_iff.2 (Or.inl habsent), rfl, hname, rfl⟩
  · exact ⟨⟨none, _, name, _⟩, present?_eq_none_iff.2 (Or.inr hnull), rfl, hname, rfl⟩
  · exact ⟨⟨some "2.0", _, name, _⟩, present?_eq_some_str_iff.2 hnamed, rfl, hname, rfl⟩

/-- Only four members matter to an envelope and to the request that it holds. -/
theorem Request.Holds.of_agree (henvelope : IsEnvelope members) (h : r.Holds members)
    (hsame : ∀ key ∈ envelopeKeys, Keyed.find? key members = Keyed.find? key members') :
    IsEnvelope members' ∧ r.Holds members' := by
  have hjsonrpc := hsame "jsonrpc" (by decide)
  have hid := hsame "id" (by decide)
  have hmethod := hsame "method" (by decide)
  have hparams := hsame "params" (by decide)
  obtain ⟨hname, hversion⟩ := henvelope
  obtain ⟨h1, h2, h3, h4⟩ := h
  rw [hmethod] at hname h3
  rw [hjsonrpc] at hversion h1
  rw [hid] at h2
  rw [hparams] at h4
  exact ⟨⟨hname, hversion⟩, ⟨h1, h2, h3, h4⟩⟩

/-- A request is read from a value in order exactly if the value is an envelope and the request
holds what its members say. -/
theorem ofValue_eq_ok_iff (hv : v.InOrder) : Request.ofValue v = .ok r ↔
    ∃ members, v = .obj members ∧ IsEnvelope members ∧ r.Holds members := by
  cases v with
  | null | bool | num | str | arr => simp [Request.ofValue, Request.isObject]
  | obj members =>
    rw [ofValue_obj_eq_ok_iff hv.1.nodup_keys]
    constructor
    · rintro ⟨hr, hversion⟩
      exact ⟨members, rfl, hr.isEnvelope_iff.2 hversion, hr⟩
    · rintro ⟨_, hmembers, henvelope, hr⟩
      cases hmembers
      exact ⟨hr, hr.isEnvelope_iff.1 henvelope⟩

/-- A refusal of a value in order is the response to a failure, under the id of the value if it has
one. -/
theorem ofValue_eq_error {refusal : Response} (hv : v.InOrder)
    (h : Request.ofValue v = .error refusal) : ∃ message, Refused v message ∧
      refusal = .failure ((v.member? "id").getD .null) (.invalidRequest message) := by
  unfold Request.ofValue at h
  dsimp only at h
  split at h
  · next hobject =>
    split at h
    · next fault hfault =>
      cases h
      exact ⟨_, .unreadable fault hfault, rfl⟩
    · next request hrequest =>
      split at h
      · cases h
      · next named hnamed =>
        split at h
        · cases h
        · next hne =>
          cases h
          refine ⟨_, .unsupported named ?_ hne, rfl⟩
          -- The version was found in the request that was read, and it is the member of this name.
          cases v with
          | null | bool | num | str | arr => cases hobject
          | obj members =>
            have hfield := ((ofJson_eq_ok_iff hv.1.nodup_keys).1 hrequest).jsonrpc
            rw [hnamed] at hfield
            exact present?_eq_some_str_iff.1 hfield
  · next hobject =>
    cases h
    exact ⟨_, .notObject (Bool.eq_false_iff.2 hobject), rfl⟩

/-! ## Reading a text -/

/-- What reading a text as a request comes to. -/
structure ReadsEnvelope (text : String) : Prop where
  /-- A text that is not JSON is refused under an id of null, with the reason and no result. -/
  notJson : ∀ e, Json.parse text = .error e →
    Request.parse text = .error ⟨"2.0", .null, none, some ⟨-32700, e.message⟩⟩
  /-- A value is accepted exactly if it is the envelope of a request. -/
  accepts : ∀ v, Json.parse text = .ok v → ((∃ r, Request.parse text = .ok r) ↔
    ∃ members, v = .obj members ∧ IsEnvelope members)
  /-- The method of an accepted request is the text that the envelope names, its id is the member
  of this name and absent only if the member is, and its parameters are the member of this name or
  null. -/
  reads : ∀ members r, Json.parse text = .ok (.obj members) → Request.parse text = .ok r →
    Keyed.find? "method" members = some (.str r.method) ∧ r.id = Keyed.find? "id" members ∧
      r.params = (Keyed.find? "params" members).getD .null
  /-- Other members are ignored: two objects that agree on the four are read as the same request, if
  they are read. -/
  ignores : ∀ text' members members', Json.parse text = .ok (.obj members) →
    Json.parse text' = .ok (.obj members') →
    (∀ key ∈ envelopeKeys, Keyed.find? key members = Keyed.find? key members') →
    ∀ r, Request.parse text = .ok r ↔ Request.parse text' = .ok r
  /-- A value that is not accepted is refused for one of three reasons, under its id if it is an
  object that has one and under null otherwise, and with no result. -/
  refuses : ∀ v, Json.parse text = .ok v → (∀ r, Request.parse text ≠ .ok r) →
    ∃ message, Refused v message ∧ Request.parse text =
      .error ⟨"2.0", (v.member? "id").getD .null, none, some ⟨-32600, message⟩⟩

/-- A text that stands for a value is read as a request from the value. -/
theorem parse_of_json (h : Json.parse text = .ok v) :
    Request.parse text = Request.ofValue v := by
  rw [Request.parse, h]

/-- A request is read from a text exactly if the text stands for an envelope and the request holds
what its members say. -/
theorem parse_eq_ok_iff : Request.parse text = .ok r ↔
    ∃ members, Json.parse text = .ok (.obj members) ∧ IsEnvelope members ∧ r.Holds members := by
  cases hv : Json.parse text with
  | error e => simp [Request.parse, hv]
  | ok v => simp [parse_of_json hv, ofValue_eq_ok_iff (Json.inOrder_of_parse hv)]

/-- The id of a request that is read from a text is the member of this name. -/
theorem id_of_parse (h : Request.parse text = .ok r) :
    ∃ members, Json.parse text = .ok (.obj members) ∧ r.id = Keyed.find? "id" members := by
  obtain ⟨members, hv, -, hr⟩ := parse_eq_ok_iff.1 h
  exact ⟨members, hv, hr.id⟩

/-- An id of null is not an absent one. -/
example :
    ["\x7b\"id\":null,\"method\":\"markers.list\"\x7d", "\x7b\"method\":\"markers.list\"\x7d"].map
      (fun text => (Request.parse text).toOption.map Request.isNotification) =
    [some false, some true] := by decide +kernel

/-- The id of a request that is read from a text is in order. -/
theorem inOrder_id_of_parse (h : Request.parse text = .ok r) {id : Json} (hid : r.id = some id) :
    id.InOrder := by
  obtain ⟨members, hv, -, hr⟩ := parse_eq_ok_iff.1 h
  exact (Json.inOrder_of_parse hv).find? (hr.id.symm.trans hid)

/-- The parameters of a request that is read from a text are in order. -/
theorem inOrder_params_of_parse (h : Request.parse text = .ok r) : r.params.InOrder := by
  obtain ⟨members, hv, -, hr⟩ := parse_eq_ok_iff.1 h
  rw [hr.params]
  cases hparams : Keyed.find? "params" members with
  | none => exact trivial
  | some params => exact (Json.inOrder_of_parse hv).find? hparams

/-- Every text is read as a request exactly if it is an envelope, what is read is what its members
say, and every other text is refused with the code of its fault and the id that it carries. -/
theorem texts_are_read_as_envelopes (text : String) : ReadsEnvelope text where
  notJson e he := by
    rw [Request.parse, he]
    rfl
  accepts v hv := by
    have hordered := Json.inOrder_of_parse hv
    rw [parse_of_json hv]
    constructor
    · rintro ⟨r, hr⟩
      obtain ⟨members, rfl, henvelope, -⟩ := (ofValue_eq_ok_iff hordered).1 hr
      exact ⟨members, rfl, henvelope⟩
    · rintro ⟨members, rfl, henvelope⟩
      obtain ⟨r, hr⟩ := henvelope.exists_holds
      exact ⟨r, (ofValue_eq_ok_iff hordered).2 ⟨members, rfl, henvelope, hr⟩⟩
  reads members r hv hr := by
    obtain ⟨_, hv', -, hholds⟩ := parse_eq_ok_iff.1 hr
    cases hv.symm.trans hv'
    exact ⟨hholds.method, hholds.id, hholds.params⟩
  ignores text' members members' hv hv' hsame r := by
    -- Agreeing is symmetric, so one direction serves for both.
    have hcarry : ∀ {t t' ms ms'}, Json.parse t = .ok (.obj ms) → Json.parse t' = .ok (.obj ms') →
        (∀ key ∈ envelopeKeys, Keyed.find? key ms = Keyed.find? key ms') →
        Request.parse t = .ok r → Request.parse t' = .ok r := by
      intro t t' ms ms' ht ht' hagree hr
      obtain ⟨_, hms, henvelope, hholds⟩ := parse_eq_ok_iff.1 hr
      cases ht.symm.trans hms
      exact parse_eq_ok_iff.2 ⟨ms', ht', hholds.of_agree henvelope hagree⟩
    exact ⟨hcarry hv hv' hsame, hcarry hv' hv fun key hkey => (hsame key hkey).symm⟩
  refuses v hv hnot := by
    rw [parse_of_json hv] at hnot ⊢
    cases hr : Request.ofValue v with
    | ok r => exact absurd hr (hnot r)
    | error refusal =>
      obtain ⟨message, hrefused, rfl⟩ := ofValue_eq_error (Json.inOrder_of_parse hv) hr
      exact ⟨message, hrefused, rfl⟩

end LiveMap.Rpc
