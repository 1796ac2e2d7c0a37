import LiveMap.Proofs.Json.RoundTrip
import LiveMap.Rpc.Message

/-!
# Responses, written and read back

A response is sent as an object whose optional parts are left out, and read by the names of its
parts, with an absent part read as none. A part that is there must not be taken for an absent one: a
result of null would be, and no other result is. The object around a part takes one level of the
nesting that a reader admits, so an id or a result may be one level less deep (`Portable`).

Main statement: `response_survives_the_wire`.
-/

namespace LiveMap.Rpc

open LiveMap.Json

/-- What a part of a response has to be like to be read back: the members of its objects are in
order, its numbers are integers that a number holds, and it is no deeper than parts may be. -/
structure Portable (v : Json) : Prop where
  /-- The members of all objects ascend. -/
  inOrder : v.InOrder
  /-- All numbers are integers from `-2^63` and below `2^64`. -/
  hasWords : v.HasWords
  /-- At most 126 arrays and objects stand inside each other, one less than a reader admits. -/
  nesting_le : v.nesting ≤ 126

namespace Portable

variable {v : Json} {ε : Type}

/-- A part that can be read back is the value of its tree. -/
theorem value?_toTree (h : Portable v) :
    (v.toTree : Json.Tree ε).value? Response.valueNesting = some v := by
  have hdepth : v.nesting ≤ Response.valueNesting := h.nesting_le
  unfold Json.Tree.value?
  rw [nesting_toTree, if_pos hdepth, toJson_toTree v h.inOrder]
  rfl

/-- A part other than null that can be read back is read as a part that is there. -/
theorem optional?_toTree (h : Portable v) (hv : v ≠ .null) :
    Json.Tree.optional? (fun t : Json.Tree ε => t.value? Response.valueNesting) (some v.toTree) =
      some (some v) := by
  have hread : Json.Tree.optional? (fun t : Json.Tree ε => t.value? Response.valueNesting)
      (some v.toTree) = ((v.toTree : Json.Tree ε).value? Response.valueNesting).map some := by
    cases v with
    | null => exact absurd rfl hv
    | bool | num | str | arr | obj => rfl
  rw [hread, h.value?_toTree]
  rfl

end Portable

namespace RpcError

/-- The numbers of an error as it is sent are integers that a number holds if its code is. -/
theorem hasWords_toJson {error : RpcError} (h : IsWord error.code) : error.toJson.HasWords :=
  ⟨h, trivial, trivial⟩

/-- An error as it is sent is read back, whatever its message is. -/
theorem ofTree?_toTree {error : RpcError} (h : error.code < (Nat.pow 2 63 : Int)) :
    ofTree? error.toJson.toTree = some error := by
  have hfields : (error.toJson.toTree : Json.Tree Unit).fields? ["code", "message"] =
      some [some (.num (.ok (.int error.code))), some (.str (.ok error.message))] := by
    rfl
  have hcode : (.num (.ok (.int error.code)) : Json.Tree Unit).integer? = some error.code :=
    if_pos h
  unfold ofTree?
  rw [hfields]
  change (Json.Tree.integer? _ >>= fun code => some (⟨code, error.message⟩ : RpcError)) = _
  rw [hcode]
  rfl

end RpcError

namespace Response

/-- A response with a result has the fields of one. -/
theorem fields?_success (id result : Json) :
    ((success id result).toJson.toTree : Json.Tree Unit).fields?
        ["jsonrpc", "id", "result", "error"] =
      some [some (.str (.ok version)), some id.toTree, some result.toTree, none] := by
  rfl

/-- A response with an error has the fields of one. -/
theorem fields?_failure (id : Json) (error : RpcError) :
    ((failure id error).toJson.toTree : Json.Tree Unit).fields?
        ["jsonrpc", "id", "result", "error"] =
      some [some (.str (.ok version)), some id.toTree, none, some error.toJson.toTree] := by
  rfl

/-- A response with a result is the response of its tree. -/
theorem ofTree?_success {id result : Json} (hid : Portable id) (hresult : Portable result)
    (hsome : result ≠ .null) :
    ofTree? (success id result).toJson.toTree = some (success id result) := by
  unfold ofTree?
  rw [fields?_success]
  change (Json.Tree.value? _ _ >>= fun id => Json.Tree.optional? _ _ >>= fun result =>
    some (⟨version, id, result, none⟩ : Response)) = _
  rw [hid.value?_toTree, hresult.optional?_toTree hsome]
  rfl

/-- A response with an error is the response of its tree. -/
theorem ofTree?_failure {id : Json} {error : RpcError} (hid : Portable id)
    (hcode : error.code < (Nat.pow 2 63 : Int)) :
    ofTree? (failure id error).toJson.toTree = some (failure id error) := by
  unfold ofTree?
  rw [fields?_failure]
  change (Json.Tree.value? _ _ >>= fun id => Option.map some (RpcError.ofTree? _) >>= fun error =>
    some (⟨version, id, none, error⟩ : Response)) = _
  rw [hid.value?_toTree, RpcError.ofTree?_toTree hcode]
  rfl

/-- A response with a result is one level deeper than its parts. -/
theorem nesting_success (id result : Json) :
    (success id result).toJson.nesting = max id.nesting result.nesting + 1 := by
  change max 0 (max id.nesting (max result.nesting 0)) + 1 = _
  rw [Nat.zero_max, Nat.max_zero]

/-- A response with an error is two levels deep, or one level deeper than its id. -/
theorem nesting_failure (id : Json) (error : RpcError) :
    (failure id error).toJson.nesting = max id.nesting 1 + 1 := by
  change max 0 (max id.nesting (max (max 0 (max 0 0) + 1) 0)) + 1 = _
  rw [Nat.zero_max]
  rfl

/-- The text of a response is read as the response of its tree. -/
theorem parse?_render {r : Response} (hwords : r.toJson.HasWords)
    (hdepth : r.toJson.nesting ≤ nestingLimit) : parse? r.render = ofTree? r.toJson.toTree := by
  unfold parse? render
  rw [Json.parse?_render hwords hdepth]
  rfl

/-- A response whose parts are portable is read back from its text as it was: one with a result that
is not null, and one with an error of any code of 64 bits with sign and any message. -/
theorem response_survives_the_wire :
    (∀ id result : Json, Portable id → Portable result → result ≠ .null →
      parse? (success id result).render = some (success id result)) ∧
    (∀ (id : Json) (error : RpcError), Portable id → -(Nat.pow 2 63 : Int) ≤ error.code →
      error.code < (Nat.pow 2 63 : Int) →
      parse? (failure id error).render = some (failure id error)) := by
  constructor
  · intro id result hid hresult hsome
    have hwords : (success id result).toJson.HasWords :=
      And.intro trivial ⟨hid.hasWords, hresult.hasWords, trivial⟩
    have hdepth : (success id result).toJson.nesting ≤ nestingLimit := by
      rw [nesting_success]
      exact Nat.succ_le_succ (Nat.max_le.2 ⟨hid.nesting_le, hresult.nesting_le⟩)
    rw [parse?_render hwords hdepth, ofTree?_success hid hresult hsome]
  · intro id error hid hleast hgreatest
    have hcode : IsWord error.code :=
      ⟨hleast, Int.lt_trans hgreatest (by decide)⟩
    have hwords : (failure id error).toJson.HasWords :=
      And.intro trivial ⟨hid.hasWords, RpcError.hasWords_toJson hcode, trivial⟩
    have hdepth : (failure id error).toJson.nesting ≤ nestingLimit := by
      rw [nesting_failure]
      exact Nat.succ_le_succ (Nat.max_le.2 ⟨hid.nesting_le, by decide⟩)
    rw [parse?_render hwords hdepth, ofTree?_failure hid hgreatest]

/-- A text with a quote, a backslash, control characters and characters of all lengths. -/
def awkwardText : String := "\"\\/\x01\n\x7fé\u2028😀"

/-- An object in an object, with an awkward key and the greatest integer. -/
def awkwardId : Json :=
  .obj [("\n\"", .arr [.num (.int 18446744073709551615), .null]), ("z", .obj [("", .bool true)])]

/-- An array with the least integer and an awkward text. -/
def awkwardResult : Json := .arr [.num (.int (-9223372036854775808)), .str awkwardText]

/-- The awkward id may be a part of a response. -/
theorem portable_awkwardId : Portable awkwardId where
  inOrder := by
    have hkeys : Keyed.Ascending [("", Json.bool true)] := List.pairwise_singleton _ _
    refine ⟨List.pairwise_pair.2 (by decide), ⟨trivial, trivial, trivial⟩, ⟨hkeys, ?_⟩, trivial⟩
    exact ⟨trivial, trivial⟩
  hasWords := ⟨⟨⟨by decide, by decide⟩, trivial, trivial⟩, ⟨trivial, trivial⟩, trivial⟩
  nesting_le := by decide

/-- The awkward result may be a part of a response. -/
theorem portable_awkwardResult : Portable awkwardResult where
  inOrder := ⟨trivial, trivial, trivial⟩
  hasWords := ⟨⟨by decide, by decide⟩, trivial, trivial⟩
  nesting_le := by decide

/-- The awkward parts are portable, and the responses with them are read back. -/
theorem awkward_response_survives_the_wire :
    (Portable awkwardId ∧ Portable awkwardResult ∧ awkwardResult ≠ .null) ∧
      parse? (success awkwardId awkwardResult).render = some (success awkwardId awkwardResult) ∧
      parse? (failure awkwardId ⟨-9223372036854775808, awkwardText⟩).render =
        some (failure awkwardId ⟨-9223372036854775808, awkwardText⟩) :=
  ⟨⟨portable_awkwardId, portable_awkwardResult, Json.noConfusion⟩,
    response_survives_the_wire.1 _ _ portable_awkwardId portable_awkwardResult Json.noConfusion,
    response_survives_the_wire.2 _ _ portable_awkwardId (by decide) (by decide)⟩

end Response

end LiveMap.Rpc
