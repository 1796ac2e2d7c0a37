import LiveMap.Proofs.Rpc.Transports
import LiveMap.Proofs.Settings

/-!
# Who gets past the token

A server with a token serves JSON-RPC to those who present it: their first authorization header has
the scheme in front, in this spelling, and then the token, perhaps with blanks around it
(`Presents`). Everybody else is refused and leaves the server as it is, whatever the request says. A
body that is too long or no text is refused even before the headers are looked at, with another
status, so its sender learns nothing about the token (`unreadable_body_is_not_unauthorized`).

A token comes from an environment, where blanks around it do not count either. The two agree: what
is left of the variable is trimmed, so it is found again behind the scheme
(`accepts_of_rpcToken`).

Main statement: `token_guards_the_hub`, for every server.
-/

namespace LiveMap

/-! ## Headers -/

namespace Headers

/-- Whether a value is that of the first header of a name, whose letters may be of either case. -/
def IsFirst (name value : String) (headers : List (String × String)) : Prop :=
  ∃ before other after, headers = before ++ (other, value) :: after ∧
    folded other = folded name ∧ ∀ h ∈ before, folded h.1 ≠ folded name

/-- The first header of a name is found. -/
theorem first?_eq_some_iff {name value : String} {headers : List (String × String)} :
    first? name headers = some value ↔ IsFirst name value headers := by
  unfold first?
  rw [Option.map_eq_some_iff]
  constructor
  · rintro ⟨⟨other, v⟩, hfind, rfl⟩
    obtain ⟨hname, before, after, hheaders, hbefore⟩ := List.find?_eq_some_iff_append.1 hfind
    exact ⟨before, other, after, hheaders, eq_of_beq hname, fun h hh => by
      simpa using hbefore h hh⟩
  · rintro ⟨before, other, after, hheaders, hname, hbefore⟩
    refine ⟨(other, value), List.find?_eq_some_iff_append.2 ⟨?_, before, after, hheaders, ?_⟩, rfl⟩
    · exact beq_iff_eq.2 hname
    · intro h hh
      simpa using hbefore h hh

/-- A transport takes the padding off the first header of a name as off any other. -/
theorem first?_unpadded (name : String) (headers : List (String × String)) :
    first? name (unpadded headers) =
      (first? name headers).map fun value =>
        String.ofList (Text.trimBy isPadding value.toList) := by
  unfold first? unpadded
  rw [List.find?_map, Option.map_map, Option.map_map]
  rfl

/-- A blank is more than padding. -/
theorem isBlank_of_isPadding (c : Char) (h : isPadding c = true) : Text.isBlank c = true := by
  simp only [isPadding, Bool.or_eq_true, beq_iff_eq] at h
  rcases h with rfl | rfl <;> decide

end Headers

/-! ## Tokens -/

namespace Authorization

open Headers (IsFirst)

/-- Whether a character may stand in a header value that is read: a visible one of ASCII, the space
or the tab. -/
def IsPlain (c : Char) : Prop := c = '\t' ∨ (' ' ≤ c ∧ c ≤ '~')

/-- Whether some headers present a token: the first authorization header can be read, and it is the
scheme and then the token, but for blanks around it. -/
def Presents (headers : List (String × String)) (token : String) : Prop :=
  ∃ rest, IsFirst "authorization" ("Bearer " ++ rest) headers ∧
    (∀ c ∈ ("Bearer " ++ rest).toList, IsPlain c) ∧ Text.trim rest = token

/-- A header value is readable exactly if each of its characters is plain. -/
theorem isReadable_iff {value : String} :
    isReadable value = true ↔ ∀ c ∈ value.toList, IsPlain c := by
  rw [isReadable, List.all_eq_true]
  refine forall₂_congr fun c _ => ?_
  rw [Bool.or_eq_true, Bool.and_eq_true, decide_eq_true_iff, decide_eq_true_iff,
    decide_eq_true_iff]
  rfl

/-- What follows the scheme is what stands behind it. -/
theorem afterScheme?_eq_some_iff {value rest : List Char} :
    afterScheme? value = some rest ↔ value = scheme.toList ++ rest := by
  unfold afterScheme?
  constructor
  · intro h
    split at h
    · next hscheme =>
      cases h
      obtain ⟨rest, rfl⟩ := List.isPrefixOf_iff_prefix.1 hscheme
      rw [List.drop_left]
    · cases h
  · rintro rfl
    rw [if_pos (List.isPrefixOf_iff_prefix.2 (List.prefix_append _ _)), List.drop_left]

/-- A header value shows a token exactly if it can be read and is the scheme and then the token, but
for blanks around it. -/
theorem presented?_eq_some_iff {value token : String} :
    presented? value = some token ↔
      ∃ rest, value = "Bearer " ++ rest ∧ (∀ c ∈ value.toList, IsPlain c) ∧
        Text.trim rest = token := by
  have hparts : ∀ rest : List Char, value.toList = scheme.toList ++ rest ↔
      value = "Bearer " ++ String.ofList rest := by
    intro rest
    rw [scheme, ← String.toList_inj, String.toList_append, String.toList_ofList (l := rest)]
  unfold presented?
  constructor
  · intro h
    split at h
    · next hreadable =>
      obtain ⟨rest, hrest, htoken⟩ := Option.map_eq_some_iff.1 h
      refine ⟨String.ofList rest, (hparts rest).1 (afterScheme?_eq_some_iff.1 hrest),
        isReadable_iff.1 hreadable, ?_⟩
      rw [Text.trim, String.toList_ofList]
      exact htoken
    · cases h
  · rintro ⟨rest, hvalue, hplain, rfl⟩
    have hrest : afterScheme? value.toList = some rest.toList := by
      rw [afterScheme?_eq_some_iff, hparts, String.ofList_toList]
      exact hvalue
    rw [if_pos (isReadable_iff.2 hplain), hrest]
    rfl

/-- Headers open a guarded route exactly if they present the token. -/
theorem accepts_some_iff {token : String} {headers : List (String × String)} :
    accepts (some token) headers = true ↔ Presents headers token := by
  unfold accepts
  dsimp only
  rw [beq_iff_eq, Option.bind_eq_some_iff]
  constructor
  · rintro ⟨value, hfirst, htoken⟩
    obtain ⟨rest, rfl, hplain, htrim⟩ := presented?_eq_some_iff.1 htoken
    exact ⟨rest, Headers.first?_eq_some_iff.1 hfirst, hplain, htrim⟩
  · rintro ⟨rest, hfirst, hplain, htrim⟩
    exact ⟨_, Headers.first?_eq_some_iff.2 hfirst, presented?_eq_some_iff.2
      ⟨rest, rfl, hplain, htrim⟩⟩

/-- Headers open a route exactly if it is not guarded or they present the token. -/
theorem accepts_iff {token : Option String} {headers : List (String × String)} :
    accepts token headers = true ↔
      token = none ∨ ∃ expected, token = some expected ∧ Presents headers expected := by
  cases token with
  | none => exact iff_of_true rfl (.inl rfl)
  | some expected =>
    rw [accepts_some_iff]
    constructor
    · exact fun h => .inr ⟨expected, rfl, h⟩
    · rintro (h | ⟨_, h, hpresents⟩)
      · cases h
      · cases h
        exact hpresents

/-- The only token that headers present is the one behind the scheme. -/
theorem trim_of_presents {headers : List (String × String)} {rest token : String}
    (hfirst : IsFirst "authorization" ("Bearer " ++ rest) headers)
    (h : Presents headers token) : Text.trim rest = token := by
  obtain ⟨other, hother, -, htrim⟩ := h
  have hsame := (Headers.first?_eq_some_iff.2 hfirst).symm.trans
    (Headers.first?_eq_some_iff.2 hother)
  have hrest : "Bearer " ++ rest = "Bearer " ++ other := Option.some.inj hsame
  rw [String.append_right_inj] at hrest
  rw [hrest]
  exact htrim

/-- The scheme and a trimmed token have no padding around them. -/
theorem bare_scheme_append {token : String} (h : Text.IsTrimmed token) (hsome : token ≠ "") :
    Text.Bare Headers.isPadding ("Bearer " ++ token).toList := by
  rw [String.toList_append]
  refine ⟨fun c rest hcs => ?_, fun rest c hcs => ?_⟩
  · obtain ⟨rfl, -⟩ := List.cons.inj hcs
    decide
  · -- The last character is that of the token, which has one.
    obtain ⟨init, last, htoken⟩ : ∃ init last, token.toList = init ++ [last] := by
      have hlist : token.toList ≠ [] := fun hnil => hsome (String.toList_eq_nil_iff.1 hnil)
      exact ⟨_, _, (List.dropLast_append_getLast hlist).symm⟩
    rw [htoken, ← List.append_assoc] at hcs
    obtain ⟨-, hlast⟩ := List.append_inj' hcs rfl
    rw [← List.singleton_inj.1 hlast]
    exact (h.of_imp Headers.isBlank_of_isPadding).last init last htoken

/-- A token that an environment gives lets in everybody who shows it, if it can be written in a
header; a transport does not get in the way. -/
theorem accepts_of_rpcToken {env : Environment} {token : String}
    {headers : List (String × String)} (htoken : Settings.rpcToken env = some token)
    (hplain : ∀ c ∈ token.toList, IsPlain c)
    (hfirst : IsFirst "authorization" ("Bearer " ++ token) headers) :
    accepts (some token) headers = true ∧
      accepts (some token) (Headers.unpadded headers) = true := by
  obtain ⟨raw, -, htrim, hsome⟩ := Settings.rpcToken_eq_some_iff.1 htoken
  have htrimmed : Text.IsTrimmed token := by
    rw [← htrim]
    exact Text.isTrimmed_trim raw
  have hall : ∀ c ∈ ("Bearer " ++ token).toList, IsPlain c := by
    intro c hc
    rw [String.toList_append, List.mem_append] at hc
    rcases hc with hc | hc
    · exact isReadable_iff.1 (by decide : isReadable "Bearer " = true) c hc
    · exact hplain c hc
  have hpresents : ∀ headers, IsFirst "authorization" ("Bearer " ++ token) headers →
      accepts (some token) headers = true := fun headers hfirst =>
    accepts_some_iff.2 ⟨token, hfirst, hall, Text.trim_of_isTrimmed htrimmed⟩
  refine ⟨hpresents headers hfirst, hpresents _ (Headers.first?_eq_some_iff.1 ?_)⟩
  rw [Headers.first?_unpadded, Headers.first?_eq_some_iff.2 hfirst, Option.map_some,
    Text.trimBy_of_bare (bare_scheme_append htrimmed hsome), String.ofList_toList]

end Authorization

/-! ## Serving -/

/-- Whether a request is a single request for JSON-RPC. -/
def HttpRequest.IsCall (request : HttpRequest) : Prop :=
  request.method = "POST" ∧ Route.ofPath? request.path = some .rpc

/-- A single request for JSON-RPC is served as one. -/
theorem Http.serve_of_isCall {request : HttpRequest} (h : request.IsCall) (token : Option String)
    (hub : Hub) : serve token request hub = rpc token request hub := by
  obtain ⟨hmethod, hroute⟩ := h
  unfold serve
  rw [hroute, hmethod]
  rfl

namespace Server

variable {ρ : Type}

/-- A name that nobody has is not given up by anybody. -/
theorem drop_of_absent {s : Server ρ} {name : String}
    (h : Keyed.find? name s.connections = none) : s.drop name = (false, s) := by
  rw [drop, h]

/-- How a token guards a server. -/
structure IsGuarded [FleetDraws ρ] (s : Server ρ) : Prop where
  /-- Headers are accepted exactly if there is no token, or if they present it. -/
  admits : ∀ headers, Authorization.accepts s.token headers = true ↔
    s.token = none ∨ ∃ token, s.token = some token ∧ Authorization.Presents headers token
  /-- A single request whose headers are accepted is served, if its body is a text and not too
  long. -/
  served : ∀ request text, request.IsCall → request.body.length ≤ Http.bodyLimit →
    Text.Utf8.decode request.body = .ok text →
    Authorization.accepts s.token request.headers = true →
      s.http request =
        ((Http.rpcText text s.hub).1, { s with hub := (Http.rpcText text s.hub).2 })
  /-- Otherwise it is refused with 401, whatever the text is, and nothing happens. -/
  refused : ∀ request text, request.IsCall → request.body.length ≤ Http.bodyLimit →
    Text.Utf8.decode request.body = .ok text →
    Authorization.accepts s.token request.headers = false →
      s.http request =
        (.json 401 (.obj [("error", .str "missing or invalid bearer token")]), s)
  /-- A body that is too long is refused with 413, whatever the headers are, and nothing happens. -/
  oversized : ∀ request, request.IsCall → Http.bodyLimit < request.body.length →
    s.http request =
      (.plain 413 "Failed to buffer the request body: length limit exceeded", s)
  /-- A body that is no text is refused with 400, whatever the headers are, and nothing happens. -/
  unreadable : ∀ request fault, request.IsCall → request.body.length ≤ Http.bodyLimit →
    Text.Utf8.decode request.body = .error fault →
    s.http request =
      (.plain 400 ("Request body didn't contain valid UTF-8: " ++ fault.message), s)
  /-- A socket for JSON-RPC opens if the headers that arrive are accepted. -/
  opened : ∀ random name path headers, Route.ofPath? path = some .rpcSocket →
    Keyed.find? name s.connections = none →
    Authorization.accepts s.token (Headers.unpadded headers) = true →
      s.openSocket random name path headers = (.opened, s.setConnection name (.rpc .idle))
  /-- Otherwise it is refused with 401, and nothing happens. -/
  turnedAway : ∀ random name path headers, Route.ofPath? path = some .rpcSocket →
    Keyed.find? name s.connections = none →
    Authorization.accepts s.token (Headers.unpadded headers) = false →
      s.openSocket random name path headers =
        (.refused (.json 401 (.obj [("error", .str "missing or invalid bearer token")])), s)
  /-- A token from an environment is accepted behind the scheme, on either route. -/
  environment : ∀ env token headers, Settings.rpcToken env = some token →
    (∀ c ∈ token.toList, Authorization.IsPlain c) →
    Headers.IsFirst "authorization" ("Bearer " ++ token) headers →
      Authorization.accepts (some token) headers = true ∧
        Authorization.accepts (some token) (Headers.unpadded headers) = true
  /-- No other token is. -/
  others : ∀ token rest headers, Text.trim rest ≠ token →
    Headers.IsFirst "authorization" ("Bearer " ++ rest) headers →
      Authorization.accepts (some token) headers = false

/-- Every server lets those in who present its token, refuses everybody else, and is not changed by
whom it refuses. -/
theorem token_guards_the_hub [FleetDraws ρ] (s : Server ρ) : s.IsGuarded where
  admits _ := Authorization.accepts_iff
  served request text hcall hlength hdecoded haccepted := by
    rw [http, Http.serve_of_isCall hcall, Http.rpc_of_accepts hlength hdecoded haccepted]
  refused request text hcall hlength hdecoded hrefused := by
    rw [http, Http.serve_of_isCall hcall, Http.rpc, Http.readBody_eq_ok hlength hdecoded]
    dsimp only
    rw [Http.rpcGuarded, hrefused, if_neg Bool.false_ne_true]
    rfl
  oversized request hcall hlength := by
    rw [http, Http.serve_of_isCall hcall, Http.rpc, Http.readBody, if_pos hlength]
  unreadable request fault hcall hlength hdecoded := by
    rw [http, Http.serve_of_isCall hcall, Http.rpc, Http.readBody, if_neg (Nat.not_lt.2 hlength),
      hdecoded]
  opened random name path headers hroute hfree haccepted := by
    unfold openSocket
    rw [drop_of_absent hfree, hroute]
    exact if_pos haccepted
  turnedAway random name path headers hroute hfree hrefused := by
    unfold openSocket
    rw [drop_of_absent hfree, hroute]
    exact if_neg (Bool.eq_false_iff.1 hrefused)
  environment env token headers htoken hplain hfirst :=
    Authorization.accepts_of_rpcToken htoken hplain hfirst
  others token rest headers hne hfirst := Bool.eq_false_iff.2 fun haccepted =>
    hne (Authorization.trim_of_presents hfirst (Authorization.accepts_some_iff.1 haccepted))

/-- Not everybody who is refused for want of the token is told so: one byte that is no text is
refused as such. -/
theorem unreadable_body_is_not_unauthorized :
    ¬ ∀ (token : Option String) (request : HttpRequest) (hub : Hub), request.IsCall →
      Authorization.accepts token request.headers = false →
        (Http.serve token request hub).1.status = 401 := fun h =>
  absurd (h (some "s3cret") ⟨"POST", "/api/rpc", [], [0xFF]⟩ (.create 1)
    ⟨rfl, by decide +kernel⟩ (by decide +kernel)) (by decide +kernel)

end Server

end LiveMap
