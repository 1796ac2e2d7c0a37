import LiveMap.Proofs.Json.Embedding
import LiveMap.Proofs.Json.RoundTrip
import LiveMap.Socket.View

/-!
# The order of the members of a browser frame

A browser may send the tag of a frame first or its payload. If the tag is first, the payload is read
as what the tag says, straight from the text; otherwise it is kept until the tag is known, and for
that it has to be a value, which must not be nested too deeply. A payload that is such a value has
one tree, whichever text stands around it (`IsKeepable.exists_tree`). So the two orders say the
same, whatever the members of the payload are, or the items that stand for them.

Main statement: `member_order_is_free`, for every name in the tag and every payload that can be
kept.
-/

namespace LiveMap

namespace Json

namespace Reader

variable {ε : Type} {excuse : Excuse ε}

/-- Blanks in front of what follows a member do not matter. -/
theorem members_append_of_blank {fuel depth : Nat} {acc : List (Except ε String × Tree ε)}
    {blanks : List Char} (h : skipBlanks blanks = []) (text : List Char) :
    members excuse fuel depth acc (blanks ++ text) = members excuse fuel depth acc text := by
  cases fuel with
  | zero => rw [members, members]
  | succ fuel => rw [members, members, skipBlanks_append_of_nil h]

end Reader

/-- What is written after the first of two members: the second one, whose value is some text. -/
def lastMember (key value : String) : List Char :=
  ',' :: '"' :: escaped key.toList (':' :: (value.toList ++ ['\x7d']))

/-- The text of an object of two members, whose values are some texts. -/
def pairText (key value key' value' : String) : List Char :=
  '\x7b' :: '"' :: escaped key.toList (':' :: (value.toList ++ lastMember key' value'))

/-- The second member takes room besides its value. -/
theorem length_lt_length_lastMember (key value : String) :
    value.toList.length + 4 < (lastMember key value).length := by
  have hkey := length_lt_length_escaped key.toList (':' :: (value.toList ++ ['\x7d']))
  rw [List.length_cons, List.length_append, List.length_singleton] at hkey
  rw [lastMember, List.length_cons, List.length_cons]
  omega

/-- The first member takes room besides its value and the second member. -/
theorem length_lt_length_pairText (key value key' value' : String) :
    value.toList.length + (lastMember key' value').length + 3 <
      (pairText key value key' value').length := by
  have hkey := length_lt_length_escaped key.toList (':' :: (value.toList ++ lastMember key' value'))
  rw [List.length_cons, List.length_append] at hkey
  rw [pairText, List.length_cons, List.length_cons]
  omega

/-- The second member is read, and the object is at its end. -/
theorem Reader.members_lastMember {ε : Type} {excuse : Excuse ε} {key value : String} {t : Tree ε}
    {fuel depth : Nat} {acc : List (Except Unit String × Tree Unit)} (hacc : acc ≠ [])
    (ht : whole excuse value = .ok t) (hfuel : 3 * (lastMember key value).length ≤ fuel) :
    members lenient fuel depth acc (lastMember key value) =
      .ok (.obj (acc.reverse ++ [(.ok key, t.forget)]), []) := by
  have hroom := length_lt_length_lastMember key value
  obtain ⟨fuel, rfl⟩ : ∃ g, fuel = g + 3 := ⟨fuel - 3, by omega⟩
  have hfuel : 3 * value.toList.length + 3 ≤ fuel + 1 := by omega
  obtain ⟨rest, hread, hblank⟩ := exists_value_of_whole ht depth hfuel (.brace [])
  rw [lastMember, members_next hacc key hread, members_append_of_blank hblank, members_brace,
    List.reverse_cons]

/-- The syntax tree of an object of two members is made of those of its members. -/
theorem parse?_of_pairText {ε ε' : Type} {excuse : Excuse ε} {excuse' : Excuse ε'}
    {key value key' value' text : String} {t : Tree ε} {t' : Tree ε'}
    (htext : text.toList = pairText key value key' value')
    (ht : Reader.whole excuse value = .ok t) (ht' : Reader.whole excuse' value' = .ok t') :
    Tree.parse? text = some (.obj [(.ok key, t.forget), (.ok key', t'.forget)]) := by
  have hroom := length_lt_length_pairText key value key' value'
  have hmembers : Reader.members Reader.lenient (3 * text.toList.length + 2) 126 []
      ('"' :: escaped key.toList (':' :: (value.toList ++ lastMember key' value'))) =
        .ok (.obj [(.ok key, t.forget), (.ok key', t'.forget)], []) := by
    rw [htext]
    have hfuel : 3 * value.toList.length + 3 ≤ 3 * (pairText key value key' value').length := by
      omega
    have hs : Boundary (lastMember key' value') := .comma _
    obtain ⟨rest, hread, hblank⟩ := Reader.exists_value_of_whole ht 126 hfuel hs
    rw [Reader.members_first key hread, Reader.members_append_of_blank hblank]
    exact Reader.members_lastMember (List.cons_ne_nil _ _) ht' (by omega)
  have hvalue : Reader.value Reader.lenient (3 * text.toList.length + 3) nestingLimit text.toList =
      .ok (.obj [(.ok key, t.forget), (.ok key', t'.forget)], []) := by
    rw [htext] at hmembers ⊢
    exact Reader.value_brace.trans hmembers
  have hwhole : Reader.whole Reader.lenient text =
      .ok (.obj [(.ok key, t.forget), (.ok key', t'.forget)]) := bind_eq_ok_of hvalue rfl
  exact congrArg Except.toOption hwhole

/-- A tree in which nothing can be spoiled stands for a text only if it is one. -/
theorem Tree.eq_str_of_sound {t : Tree Empty} {s : String} (h : t.sound = .str s) :
    t = .str (.ok s) := by
  have hvalue : t.toJson = .ok (.str s) := h ▸ t.toJson_eq_ok_sound
  cases t with
  | null | bool => cases hvalue
  | num r => cases r <;> cases hvalue
  | str r =>
    cases r with
    | error mark => cases mark
    | ok s' =>
      cases hvalue
      rfl
  | arr items =>
    obtain ⟨_, -, hvalue⟩ := exists_of_bind_eq_ok hvalue
    cases hvalue
  | obj members =>
    obtain ⟨_, -, hvalue⟩ := exists_of_bind_eq_ok hvalue
    cases hvalue

end Json

namespace BrowserFrame

/-- The text of a frame whose tag stands in front of its payload. -/
def tagFirst (tag payload : String) : String :=
  "\x7b\"event\":" ++ tag ++ ",\"payload\":" ++ payload ++ "\x7d"

/-- The text of a frame whose payload stands in front of its tag. -/
def payloadFirst (tag payload : String) : String :=
  "\x7b\"payload\":" ++ payload ++ ",\"event\":" ++ tag ++ "\x7d"

theorem toList_tagFirst (tag payload : String) :
    (tagFirst tag payload).toList = Json.pairText "event" tag "payload" payload := by
  simp only [tagFirst, String.toList_append, List.append_assoc]
  rfl

theorem toList_payloadFirst (tag payload : String) :
    (payloadFirst tag payload).toList = Json.pairText "payload" payload "event" tag := by
  simp only [payloadFirst, String.toList_append, List.append_assoc]
  rfl

/-- Reads a frame of a tag that is a text, in front of a payload. -/
theorem ofTree?_tagFirst (name : String) (payload : Json.Tree Unit) :
    ofTree? (.obj [(.ok "event", .str (.ok name)), (.ok "payload", payload)]) =
      (FrameTag.ofName? name).bind (payload? · payload) := rfl

/-- Reads a frame of a payload that can be kept, in front of a tag that is a text. -/
theorem ofTree?_payloadFirst (name : String) {payload : Json.Tree Unit} {v : Json}
    (hkept : payload.value? keptNesting = some v) :
    ofTree? (.obj [(.ok "payload", payload), (.ok "event", .str (.ok name))]) =
      (FrameTag.ofName? name).bind (payload? · payload) := by
  show buffered? payload (.str (.ok name)) = _
  unfold buffered?
  rw [hkept]
  rfl

/-- Whether a text is a payload that can be kept until its tag is known: it stands for a value, and
not too many arrays and objects stand inside each other in it. -/
structure IsKeepable (payload : String) : Prop where
  /-- It stands for a value. -/
  isValue : ∃ v, Json.parse payload = .ok v
  /-- It is not nested too deeply. -/
  nesting_le : ∀ t, Json.Tree.parse? payload = some t → t.nesting ≤ keptNesting

/-- A payload that can be kept has a tree, in which nothing is spoiled, and in frames it has no
other one. -/
theorem IsKeepable.exists_tree {payload : String} (h : IsKeepable payload) :
    ∃ t v, Json.Tree.parse? payload = some t ∧ t.value? keptNesting = some v ∧
      ∀ name tag, Json.parse tag = .ok (.str name) →
        Json.Tree.parse? (tagFirst tag payload) =
            some (.obj [(.ok "event", .str (.ok name)), (.ok "payload", t)]) ∧
          Json.Tree.parse? (payloadFirst tag payload) =
            some (.obj [(.ok "payload", t), (.ok "event", .str (.ok name))]) := by
  obtain ⟨v, hv⟩ := h.isValue
  obtain ⟨excuse, t, ht, rfl⟩ := Json.exists_whole_of_parse hv
  have hown : Json.Tree.parse? payload = some t.forget := Json.Tree.parse?_of_whole ht
  refine ⟨t.forget, t.sound, hown, ?_, fun name tag htag => ?_⟩
  · rw [Json.Tree.value?, if_pos (h.nesting_le _ hown),
      Json.Tree.toJson_forget t t.toJson_eq_ok_sound]
    rfl
  · obtain ⟨excuse', u, hu, hname⟩ := Json.exists_whole_of_parse htag
    rw [Json.Tree.eq_str_of_sound hname] at hu
    exact ⟨Json.parse?_of_pairText (toList_tagFirst tag payload) hu ht,
      Json.parse?_of_pairText (toList_payloadFirst tag payload) ht hu⟩

/-- What it means that the order of the members of a frame is free, for the name in its tag and its
payload. -/
structure OrderIsFree (name payload : String) : Prop where
  /-- The two orders say the same, whichever text stands for the name. -/
  agree : ∀ tag, Json.parse tag = .ok (.str name) →
    parse? (tagFirst tag payload) = parse? (payloadFirst tag payload)
  /-- The text to which the name is written is one. -/
  written : Json.parse (Json.str name).render = .ok (.str name)
  /-- They say what the payload says by itself to the kind with the name, and nothing if there is no
  such kind. -/
  reads : ∃ t, Json.Tree.parse? payload = some t ∧ ∀ tag, Json.parse tag = .ok (.str name) →
    parse? (tagFirst tag payload) = (FrameTag.ofName? name).bind (payload? · t)
  /-- So a view socket does the same on both. -/
  taken : ∀ {ρ : Type} (socket : ViewSocket ρ) (hub : Hub) (tag : String),
    Json.parse tag = .ok (.str name) →
      socket.receiveText (tagFirst tag payload) hub =
        socket.receiveText (payloadFirst tag payload) hub

/-- Whatever the tag and the payload of a frame are, the order in which they stand does not matter
if the payload can be kept. -/
theorem member_order_is_free (name : String) {payload : String} (h : IsKeepable payload) :
    OrderIsFree name payload := by
  obtain ⟨t, v, hown, hkept, hframes⟩ := h.exists_tree
  have htagFirst : ∀ tag, Json.parse tag = .ok (.str name) →
      parse? (tagFirst tag payload) = (FrameTag.ofName? name).bind (payload? · t) := by
    intro tag htag
    rw [parse?, (hframes name tag htag).1, Option.bind_some, ofTree?_tagFirst]
  have hpayloadFirst : ∀ tag, Json.parse tag = .ok (.str name) →
      parse? (payloadFirst tag payload) = (FrameTag.ofName? name).bind (payload? · t) := by
    intro tag htag
    rw [parse?, (hframes name tag htag).2, Option.bind_some, ofTree?_payloadFirst name hkept]
  have hagree : ∀ tag, Json.parse tag = .ok (.str name) →
      parse? (tagFirst tag payload) = parse? (payloadFirst tag payload) := fun tag htag =>
    (htagFirst tag htag).trans (hpayloadFirst tag htag).symm
  constructor
  case agree => exact hagree
  case written => exact Json.parse_render trivial trivial (Nat.zero_le _)
  case reads => exact ⟨t, hown, htagFirst⟩
  case taken =>
    intro ρ socket hub tag htag
    rw [ViewSocket.receiveText, ViewSocket.receiveText, hagree tag htag]

/-- A payload with blanks around it, and with two members of one name that nobody asks for. -/
theorem member_order_is_free_beside_unknown_members :
    let payload := " \x7b\"x\":[1e2,\x7b\x7d],\"event\":\"drag\",\"x\":null," ++
      "\"center\":[1,-2.5],\"zoom\":3\x7d "
    IsKeepable payload ∧ OrderIsFree "map-event" payload ∧
      (parse? (payloadFirst "\"map-event\"" payload)).isSome = true := by
  intro payload
  have hfacts : (Json.parse payload).toOption.isSome = true ∧
      (Json.Tree.parse? payload).map Json.Tree.nesting = some 3 ∧
      (parse? (payloadFirst "\"map-event\"" payload)).isSome = true := by
    decide +kernel
  obtain ⟨hvalue, hnesting, hread⟩ := hfacts
  have hkeepable : IsKeepable payload := by
    constructor
    case isValue =>
      obtain ⟨v, hv⟩ := Option.isSome_iff_exists.1 hvalue
      obtain ⟨v', hv', -⟩ := exists_of_map_toOption_eq_some (f := id) (by rwa [Option.map_id])
      exact ⟨v', hv'⟩
    case nesting_le =>
      intro t ht
      rw [ht] at hnesting
      have hthree : t.nesting = 3 := Option.some.inj hnesting
      rw [hthree]
      decide
  exact ⟨hkeepable, member_order_is_free "map-event" hkeepable, hread⟩

end BrowserFrame

end LiveMap
