import LiveMap.Proofs.Json.Order
import LiveMap.Proofs.Json.Token

/-!
# JSON values, written and read back

The text that a value is written to fits the grammar, and its syntax tree is the value with every
leaf sound (`toTree`), provided that the numbers are integers that a number holds and that no more
arrays and objects stand inside each other than the reader admits. A value whose members are in
order is the value of that tree, so it is read back as it was.

The proof that the reader returns the tree goes by induction on the value. Inside an array or an
object the reader is at the end of an item, in front of what `moreItems` or `moreMembers` writes,
and has the items before it in its accumulator. It never runs out of fuel as long as the fuel is
three times the length of what is unread, since each item and each member takes a character at
least.

Main statements: `parse?_render`, `parse_render`.
-/

namespace LiveMap.Json

/-! ## Numbers and depth of a value -/

mutual

/-- Whether all numbers inside a value are integers that a number holds. -/
def HasWords : Json → Prop
  | num (.int n) => IsWord n
  | num (.float _) => False
  | arr items => ItemsHaveWords items
  | obj members => MembersHaveWords members
  | _ => True

/-- Whether all numbers inside some items are integers that a number holds. -/
def ItemsHaveWords : List Json → Prop
  | [] => True
  | v :: rest => HasWords v ∧ ItemsHaveWords rest

/-- Whether all numbers inside the values of some members are integers that a number holds. -/
def MembersHaveWords : List (String × Json) → Prop
  | [] => True
  | (_, v) :: rest => HasWords v ∧ MembersHaveWords rest

end

mutual

/-- The greatest number of arrays and objects that stand inside each other. -/
def nesting : Json → Nat
  | arr items => itemsNesting items + 1
  | obj members => membersNesting members + 1
  | _ => 0

/-- The greatest nesting of some items. -/
def itemsNesting : List Json → Nat
  | [] => 0
  | v :: rest => max (nesting v) (itemsNesting rest)

/-- The greatest nesting of the values of some members. -/
def membersNesting : List (String × Json) → Nat
  | [] => 0
  | (_, v) :: rest => max (nesting v) (membersNesting rest)

end

/-! ## The tree of a written value -/

section

variable {ε : Type}

mutual

/-- The syntax tree of the text that a value is written to. -/
def toTree : Json → Tree ε
  | null => .null
  | bool b => .bool b
  | num n => .num (.ok n)
  | str s => .str (.ok s)
  | arr items => .arr (itemsToTrees items)
  | obj members => .obj (membersToTrees members)

/-- The syntax trees of items. -/
def itemsToTrees : List Json → List (Tree ε)
  | [] => []
  | v :: rest => toTree v :: itemsToTrees rest

/-- The syntax trees of members. -/
def membersToTrees : List (String × Json) → List (Except ε String × Tree ε)
  | [] => []
  | (key, v) :: rest => (.ok key, toTree v) :: membersToTrees rest

end

mutual

/-- The tree of a value is as deep as the value. -/
theorem nesting_toTree : (v : Json) → (v.toTree : Tree ε).nesting = v.nesting
  | null | bool _ | num _ | str _ => rfl
  | arr items => congrArg (· + 1) (itemsNesting_itemsToTrees items)
  | obj members => congrArg (· + 1) (membersNesting_membersToTrees members)

/-- The trees of items are as deep as the items. -/
theorem itemsNesting_itemsToTrees :
    (items : List Json) → Tree.itemsNesting (itemsToTrees items : List (Tree ε)) =
      itemsNesting items
  | [] => rfl
  | v :: rest => by
    rw [itemsToTrees, Tree.itemsNesting, itemsNesting, nesting_toTree v,
      itemsNesting_itemsToTrees rest]

/-- The trees of members are as deep as their values. -/
theorem membersNesting_membersToTrees :
    (members : List (String × Json)) →
      Tree.membersNesting (membersToTrees members : List (Except ε String × Tree ε)) =
        membersNesting members
  | [] => rfl
  | (_, v) :: rest => by
    rw [membersToTrees, Tree.membersNesting, membersNesting, nesting_toTree v,
      membersNesting_membersToTrees rest]

end

/-- A key above all others is put at the end. -/
theorem insert_of_forall_lt {key : String} {v : Json} {table : List (String × Json)}
    (h : ∀ k ∈ table.map Prod.fst, k < key) : Keyed.insert key v table = table ++ [(key, v)] := by
  induction table with
  | nil => rfl
  | cons e rest ih =>
    have hlt : e.1 < key := h e.1 List.mem_cons_self
    rw [Keyed.insert, if_neg (String.ne_of_lt hlt), if_neg (String.lt_asymm hlt),
      ih fun k hk => h k (List.mem_cons_of_mem _ hk), List.cons_append]

/-- Members that ascend beyond a table are put at its end one by one. -/
theorem sortInto_of_ascending (members : List (String × Json)) :
    ∀ table : List (String × Json), Keyed.Ascending (table ++ members) →
      members.foldl (fun table (k, v) => Keyed.insert k v table) table = table ++ members := by
  induction members with
  | nil => exact fun table _ => (List.append_nil table).symm
  | cons e rest ih =>
    intro table h
    have habove : ∀ k ∈ table.map Prod.fst, k < e.1 := by
      rw [Keyed.Ascending, List.map_append, List.pairwise_append] at h
      exact fun k hk => h.2.2 k hk e.1 List.mem_cons_self
    have hnext := ih (table ++ [e]) (by rwa [List.append_assoc, List.singleton_append])
    rw [List.append_assoc, List.singleton_append, ← insert_of_forall_lt habove] at hnext
    exact hnext

/-- Ascending members stay as they are when they are sorted. -/
theorem sortMembers_of_ascending {members : List (String × Json)} (h : Keyed.Ascending members) :
    sortMembers members = members :=
  sortInto_of_ascending members [] h

mutual

/-- A value in order is the value of its tree. -/
theorem toJson_toTree : (v : Json) → v.InOrder → (v.toTree : Tree ε).toJson = .ok v
  | null, _ | bool _, _ | num _, _ | str _, _ => rfl
  | arr items, h => bind_eq_ok_of (itemsToJson_itemsToTrees items h) rfl
  | obj members, h =>
    bind_eq_ok_of (membersToJson_membersToTrees members h.2)
      (congrArg (fun sorted => Except.ok (obj sorted)) (sortMembers_of_ascending h.1))

/-- Items in order are the values of their trees. -/
theorem itemsToJson_itemsToTrees : (items : List Json) → ItemsInOrder items →
    Tree.itemsToJson (itemsToTrees items : List (Tree ε)) = .ok items
  | [], _ => rfl
  | v :: rest, h =>
    bind_eq_ok_of (toJson_toTree v h.1) (bind_eq_ok_of (itemsToJson_itemsToTrees rest h.2) rfl)

/-- Members in order are the values of their trees. -/
theorem membersToJson_membersToTrees : (members : List (String × Json)) → MembersInOrder members →
    Tree.membersToJson (membersToTrees members : List (Except ε String × Tree ε)) = .ok members
  | [], _ => rfl
  | (_, v) :: rest, h =>
    bind_eq_ok_of rfl (bind_eq_ok_of (toJson_toTree v h.1)
      (bind_eq_ok_of (membersToJson_membersToTrees rest h.2) rfl))

end

end

/-! ## The text of a value -/

/-- What is written after an item: the other items, each behind a comma. -/
def moreItems : List Json → List Char → List Char
  | [], rest => rest
  | v :: more, rest => ',' :: writeItems (v :: more) rest

/-- What is written after a member: the other members, each behind a comma. -/
def moreMembers : List (String × Json) → List Char → List Char
  | [], rest => rest
  | m :: more, rest => ',' :: writeMembers (m :: more) rest

theorem writeItems_cons (v : Json) (more : List Json) (rest : List Char) :
    writeItems (v :: more) rest = write v (moreItems more rest) := by
  cases more <;> rfl

theorem writeMembers_cons (key : String) (v : Json) (more : List (String × Json))
    (rest : List Char) :
    writeMembers ((key, v) :: more) rest =
      '"' :: escaped key.toList (':' :: write v (moreMembers more rest)) := by
  cases more <;> rfl

/-- A member takes three characters at least beside its value: two quotes and the colon. -/
theorem length_write_lt_length_writeMembers (key : String) (v : Json) (more : List (String × Json))
    (rest : List Char) :
    (write v (moreMembers more rest)).length + 2 <
      (writeMembers ((key, v) :: more) rest).length := by
  have hkey := length_lt_length_escaped key.toList (':' :: write v (moreMembers more rest))
  rw [List.length_cons] at hkey
  rw [writeMembers_cons, List.length_cons]
  omega

/-- Neither the minus sign nor a digit is a blank. -/
theorem isBlank_eq_false {c : Char} (hc : c = '-' ∨ c.isDigit = true) :
    Reader.isBlank c = false := by
  refine Bool.eq_false_iff.2 fun hblank => ?_
  simp only [Reader.isBlank, Bool.or_eq_true, decide_eq_true_eq] at hblank
  rcases hblank with ((rfl | rfl) | rfl) | rfl <;> rcases hc with hc | hc <;> cases hc

/-- The text of a value starts with neither a blank nor a bracket that closes something. -/
theorem exists_write_eq_cons : (v : Json) → v.HasWords → (rest : List Char) →
    ∃ c text, write v rest = c :: text ∧ Reader.isBlank c = false ∧ c ≠ ']'
  | null, _, _ | bool true, _, _ | bool false, _, _ | str _, _, _ | arr _, _, _ | obj _, _, _ =>
    ⟨_, _, rfl, rfl, by decide⟩
  | num (.int n), _, rest => by
    obtain ⟨c, text, htext, hc⟩ := exists_intText_eq_cons n
    refine ⟨c, text ++ rest, congrArg (· ++ rest) htext, isBlank_eq_false hc, ?_⟩
    rintro rfl
    rcases hc with hc | hc <;> cases hc

-- The induction is on the value; an item or a member is written in front of what follows it.
mutual

/-- A value takes room. -/
theorem length_lt_length_write : (v : Json) → v.HasWords → (rest : List Char) →
    rest.length < (write v rest).length
  | null, _, _ | bool true, _, _ | bool false, _, _ => by
    simp only [write, List.length_cons]
    omega
  | num (.int n), _, rest => by
    obtain ⟨c, text, htext, -⟩ := exists_intText_eq_cons n
    rw [write, Number.text, htext, List.length_append, List.length_cons]
    omega
  | str s, _, rest => by
    have hroom := length_lt_length_escaped s.toList rest
    rw [write, writeString_eq, List.length_cons]
    omega
  | arr [], _, rest => by
    simp only [write, writeItems, List.length_cons]
    omega
  | arr (v :: more), h, rest => by
    have hv := length_lt_length_write v h.1 (moreItems more (']' :: rest))
    have hmore := length_le_length_moreItems more h.2 (']' :: rest)
    rw [List.length_cons] at hmore
    rw [write, writeItems_cons, List.length_cons]
    omega
  | obj [], _, rest => by
    simp only [write, writeMembers, List.length_cons]
    omega
  | obj ((key, v) :: more), h, rest => by
    have hmember := length_write_lt_length_writeMembers key v more ('\x7d' :: rest)
    have hv := length_lt_length_write v h.1 (moreMembers more ('\x7d' :: rest))
    have hmore := length_le_length_moreMembers more h.2 ('\x7d' :: rest)
    rw [List.length_cons] at hmore
    rw [write, List.length_cons]
    omega

/-- More items take no room away. -/
theorem length_le_length_moreItems : (more : List Json) → ItemsHaveWords more →
    (rest : List Char) → rest.length ≤ (moreItems more rest).length
  | [], _, _ => Nat.le_refl _
  | v :: more, h, rest => by
    have hv := length_lt_length_write v h.1 (moreItems more rest)
    have hmore := length_le_length_moreItems more h.2 rest
    rw [moreItems, writeItems_cons, List.length_cons]
    omega

/-- More members take no room away. -/
theorem length_le_length_moreMembers : (more : List (String × Json)) → MembersHaveWords more →
    (rest : List Char) → rest.length ≤ (moreMembers more rest).length
  | [], _, _ => Nat.le_refl _
  | (key, v) :: more, h, rest => by
    have hmember := length_write_lt_length_writeMembers key v more rest
    have hv := length_lt_length_write v h.1 (moreMembers more rest)
    have hmore := length_le_length_moreMembers more h.2 rest
    rw [moreMembers, List.length_cons]
    omega

end

/-- After an item of an array that is written stands a boundary. -/
theorem boundary_moreItems (more : List Json) (rest : List Char) :
    Boundary (moreItems more (']' :: rest)) := by
  cases more with
  | nil => exact .bracket rest
  | cons v more => exact .comma _

/-- After a member of an object that is written stands a boundary. -/
theorem boundary_moreMembers (more : List (String × Json)) (rest : List Char) :
    Boundary (moreMembers more ('\x7d' :: rest)) := by
  cases more with
  | nil => exact .brace rest
  | cons m more => exact .comma _

/-! ## Reading it back -/

namespace Reader

variable {ε : Type} {excuse : Excuse ε} {fuel depth : Nat} {text rest : List Char} {t : Tree ε}

/-- Where no blank stands none is skipped. -/
theorem skipBlanks_cons {c : Char} (hc : isBlank c = false) :
    skipBlanks (c :: text) = c :: text := by
  rw [skipBlanks, List.dropWhile_cons_of_neg (Bool.eq_false_iff.1 hc)]

/-- The text of an integer is read as a number. -/
theorem value_intText (n : Int) :
    value excuse (fuel + 1) depth (intText n ++ rest) = number excuse (intText n ++ rest) := by
  obtain ⟨c, text, htext, hc⟩ := exists_intText_eq_cons n
  rw [htext, List.cons_append, value, skipBlanks_cons (isBlank_eq_false hc)]
  -- Nothing else starts with a minus sign or a digit.
  split
  · next h => cases h
  all_goals next h =>
    obtain ⟨rfl, rfl⟩ := List.cons.inj h
    first
    | exact if_pos (by simpa using hc)
    | rcases hc with hc | hc <;> cases hc

/-- A bracket ends an array. -/
theorem elements_bracket (acc : List (Tree ε)) :
    elements excuse (fuel + 1) depth acc (']' :: rest) = .ok (.arr acc.reverse, rest) := by
  rw [elements]
  rfl

/-- The first item of an array is read. -/
theorem elements_write {v : Json} {after : List Char} (hv : v.HasWords)
    (hread : value excuse fuel depth (write v after) = .ok (t, rest)) :
    elements excuse (fuel + 1) depth [] (write v after) = elements excuse fuel depth [t] rest := by
  obtain ⟨c, text, htext, hblank, hc⟩ := exists_write_eq_cons v hv after
  rw [htext] at hread ⊢
  rw [elements, skipBlanks_cons hblank]
  split
  · next h => cases h
  · next h => exact absurd (List.cons.inj h).1 hc
  · next h =>
    obtain ⟨rfl, rfl⟩ := List.cons.inj h
    rw [hread]
    rfl

/-- Behind a comma the next item is read. -/
theorem elements_comma_write {v : Json} {after : List Char} {acc : List (Tree ε)} (hv : v.HasWords)
    (hacc : acc ≠ []) (hread : value excuse fuel depth (write v after) = .ok (t, rest)) :
    elements excuse (fuel + 1) depth acc (',' :: write v after) =
      elements excuse fuel depth (t :: acc) rest := by
  have hsome : acc.isEmpty = false := by rwa [List.isEmpty_eq_false_iff]
  obtain ⟨c, text, htext, hblank, hc⟩ := exists_write_eq_cons v hv after
  rw [htext] at hread ⊢
  rw [elements, skipBlanks_cons rfl]
  split
  · next h => cases h
  · next h => cases h
  · next h =>
    obtain ⟨rfl, rfl⟩ := List.cons.inj h
    rw [hsome, if_neg Bool.false_ne_true, if_pos rfl, skipBlanks_cons hblank]
    split
    · next h => exact absurd (List.cons.inj h).1 hc
    · rw [hread]
      rfl

/-- A brace ends an object. -/
theorem members_brace (acc : List (Except ε String × Tree ε)) :
    members excuse (fuel + 1) depth acc ('\x7d' :: rest) = .ok (.obj acc.reverse, rest) := by
  rw [members]
  rfl

/-- A member is read: its key and its value. -/
theorem member_escaped {acc : List (Except ε String × Tree ε)} (key : String)
    (hread : value excuse fuel depth text = .ok (t, rest)) :
    member excuse (fuel + 1) depth acc ('"' :: escaped key.toList (':' :: text)) =
      members excuse fuel depth ((.ok key, t) :: acc) rest := by
  unfold member
  split
  · next h =>
    obtain ⟨-, rfl⟩ := List.cons.inj h
    rw [string_escaped]
    change (value excuse fuel depth text >>= fun read =>
      members excuse fuel depth ((.ok key, read.1) :: acc) read.2) = _
    rw [hread]
    rfl
  · next h => exact absurd rfl (h _)

/-- The first member of an object is read. -/
theorem members_first (key : String) (hread : value excuse fuel depth text = .ok (t, rest)) :
    members excuse (fuel + 2) depth [] ('"' :: escaped key.toList (':' :: text)) =
      members excuse fuel depth [(.ok key, t)] rest := by
  rw [members, skipBlanks_cons rfl]
  exact member_escaped key hread

/-- Behind a comma the next member is read. -/
theorem members_next {acc : List (Except ε String × Tree ε)} (hacc : acc ≠ []) (key : String)
    (hread : value excuse fuel depth text = .ok (t, rest)) :
    members excuse (fuel + 2) depth acc (',' :: '"' :: escaped key.toList (':' :: text)) =
      members excuse fuel depth ((.ok key, t) :: acc) rest := by
  have hsome : acc.isEmpty = false := by rwa [List.isEmpty_eq_false_iff]
  rw [members, skipBlanks_cons rfl]
  split
  · next h => cases h
  · next h => cases h
  · next h =>
    obtain ⟨rfl, rfl⟩ := List.cons.inj h
    rw [hsome, if_neg Bool.false_ne_true, if_pos rfl, skipBlanks_cons rfl]
    exact member_escaped key hread

/-- An array is read item by item. -/
theorem value_bracket :
    value excuse (fuel + 1) (depth + 1) ('[' :: text) = elements excuse fuel depth [] text := by
  rw [value]
  rfl

/-- An object is read member by member. -/
theorem value_brace :
    value excuse (fuel + 1) (depth + 1) ('\x7b' :: text) = members excuse fuel depth [] text := by
  rw [value]
  rfl

-- The induction is on the value. The accumulator holds what the induction has read; the fuel is
-- compared with the length of what is unread.
mutual

/-- A written value is read back. -/
theorem value_write : (v : Json) → ∀ {fuel depth : Nat} {rest : List Char}, v.HasWords →
    v.nesting ≤ depth → Boundary rest → 3 * (write v rest).length ≤ fuel →
    value excuse fuel depth (write v rest) = .ok ((v.toTree : Tree ε), rest)
  | v, 0, depth, rest, hwords, _, _, hfuel => by
    have hroom := length_lt_length_write v hwords rest
    omega
  | null, fuel + 1, depth, rest, _, _, _, _ => by
    rw [write, value]
    rfl
  | bool true, fuel + 1, depth, rest, _, _, _, _ => by
    rw [write, value]
    rfl
  | bool false, fuel + 1, depth, rest, _, _, _, _ => by
    rw [write, value]
    rfl
  | num (.int n), fuel + 1, depth, rest, hn, _, hrest, _ =>
    (value_intText n).trans (number_intText hn hrest)
  | str s, fuel + 1, depth, rest, _, _, _, _ => by
    rw [write, writeString_eq, value]
    exact bind_eq_ok_of (string_escaped s) rfl
  | arr [], fuel + 1, depth + 1, rest, _, _, _, hfuel => by
    rw [write, writeItems, List.length_cons, List.length_cons] at hfuel
    obtain ⟨fuel, rfl⟩ : ∃ g, fuel = g + 1 := ⟨fuel - 1, by omega⟩
    exact value_bracket.trans (elements_bracket [])
  | arr (v :: more), fuel + 1, depth + 1, rest, hwords, hdepth, _, hfuel => by
    have hroom := length_lt_length_write v hwords.1 (moreItems more (']' :: rest))
    rw [write, writeItems_cons, List.length_cons] at hfuel
    obtain ⟨fuel, rfl⟩ : ∃ g, fuel = g + 1 := ⟨fuel - 1, by omega⟩
    have hdepth : max v.nesting (itemsNesting more) ≤ depth := Nat.le_of_succ_le_succ hdepth
    have hv : value excuse fuel depth (write v (moreItems more (']' :: rest))) =
        .ok (v.toTree, moreItems more (']' :: rest)) :=
      value_write v hwords.1 (by omega) (boundary_moreItems more rest) (by omega)
    have hmore : elements excuse fuel depth [v.toTree] (moreItems more (']' :: rest)) =
        .ok (.arr ([v.toTree].reverse ++ itemsToTrees more), rest) :=
      elements_moreItems more (List.cons_ne_nil _ _) hwords.2 (by omega) (by omega)
    rw [write, writeItems_cons, value_bracket, elements_write hwords.1 hv, hmore]
    rfl
  | obj [], fuel + 1, depth + 1, rest, _, _, _, hfuel => by
    rw [write, writeMembers, List.length_cons, List.length_cons] at hfuel
    obtain ⟨fuel, rfl⟩ : ∃ g, fuel = g + 1 := ⟨fuel - 1, by omega⟩
    exact value_brace.trans (members_brace [])
  | obj ((key, v) :: more), fuel + 1, depth + 1, rest, hwords, hdepth, _, hfuel => by
    have hmember := length_write_lt_length_writeMembers key v more ('\x7d' :: rest)
    have hroom := length_lt_length_write v hwords.1 (moreMembers more ('\x7d' :: rest))
    rw [write, List.length_cons] at hfuel
    obtain ⟨fuel, rfl⟩ : ∃ g, fuel = g + 2 := ⟨fuel - 2, by omega⟩
    have hdepth : max v.nesting (membersNesting more) ≤ depth := Nat.le_of_succ_le_succ hdepth
    have hv : value excuse fuel depth (write v (moreMembers more ('\x7d' :: rest))) =
        .ok (v.toTree, moreMembers more ('\x7d' :: rest)) :=
      value_write v hwords.1 (by omega) (boundary_moreMembers more rest) (by omega)
    have hmore : members excuse fuel depth [(.ok key, v.toTree)]
          (moreMembers more ('\x7d' :: rest)) =
        .ok (.obj ([(.ok key, v.toTree)].reverse ++ membersToTrees more), rest) :=
      members_moreMembers more (List.cons_ne_nil _ _) hwords.2 (by omega) (by omega)
    rw [write, writeMembers_cons, value_brace, members_first key hv, hmore]
    rfl

/-- The items after the first one are read back. -/
theorem elements_moreItems : (more : List Json) → ∀ {fuel depth : Nat} {acc : List (Tree ε)}
    {rest : List Char}, acc ≠ [] → ItemsHaveWords more → itemsNesting more ≤ depth →
    3 * (moreItems more (']' :: rest)).length ≤ fuel →
    elements excuse fuel depth acc (moreItems more (']' :: rest)) =
      .ok (.arr (acc.reverse ++ itemsToTrees more), rest)
  | [], fuel, depth, acc, rest, _, _, _, hfuel => by
    rw [moreItems, List.length_cons] at hfuel
    obtain ⟨fuel, rfl⟩ : ∃ g, fuel = g + 1 := ⟨fuel - 1, by omega⟩
    rw [moreItems, elements_bracket, itemsToTrees, List.append_nil]
  | v :: more, fuel, depth, acc, rest, hacc, hwords, hdepth, hfuel => by
    have hroom := length_lt_length_write v hwords.1 (moreItems more (']' :: rest))
    rw [moreItems, writeItems_cons, List.length_cons] at hfuel
    obtain ⟨fuel, rfl⟩ : ∃ g, fuel = g + 1 := ⟨fuel - 1, by omega⟩
    have hdepth : max v.nesting (itemsNesting more) ≤ depth := hdepth
    have hv : value excuse fuel depth (write v (moreItems more (']' :: rest))) =
        .ok (v.toTree, moreItems more (']' :: rest)) :=
      value_write v hwords.1 (by omega) (boundary_moreItems more rest) (by omega)
    have hmore : elements excuse fuel depth (v.toTree :: acc) (moreItems more (']' :: rest)) =
        .ok (.arr ((v.toTree :: acc).reverse ++ itemsToTrees more), rest) :=
      elements_moreItems more (List.cons_ne_nil _ _) hwords.2 (by omega) (by omega)
    rw [moreItems, writeItems_cons, elements_comma_write hwords.1 hacc hv, hmore, List.reverse_cons,
      List.append_assoc]
    rfl

/-- The members after the first one are read back. -/
theorem members_moreMembers : (more : List (String × Json)) → ∀ {fuel depth : Nat}
    {acc : List (Except ε String × Tree ε)} {rest : List Char}, acc ≠ [] →
    MembersHaveWords more → membersNesting more ≤ depth →
    3 * (moreMembers more ('\x7d' :: rest)).length ≤ fuel →
    members excuse fuel depth acc (moreMembers more ('\x7d' :: rest)) =
      .ok (.obj (acc.reverse ++ membersToTrees more), rest)
  | [], fuel, depth, acc, rest, _, _, _, hfuel => by
    rw [moreMembers, List.length_cons] at hfuel
    obtain ⟨fuel, rfl⟩ : ∃ g, fuel = g + 1 := ⟨fuel - 1, by omega⟩
    rw [moreMembers, members_brace, membersToTrees, List.append_nil]
  | (key, v) :: more, fuel, depth, acc, rest, hacc, hwords, hdepth, hfuel => by
    have hmember := length_write_lt_length_writeMembers key v more ('\x7d' :: rest)
    have hroom := length_lt_length_write v hwords.1 (moreMembers more ('\x7d' :: rest))
    rw [moreMembers, List.length_cons] at hfuel
    obtain ⟨fuel, rfl⟩ : ∃ g, fuel = g + 2 := ⟨fuel - 2, by omega⟩
    have hdepth : max v.nesting (membersNesting more) ≤ depth := hdepth
    have hv : value excuse fuel depth (write v (moreMembers more ('\x7d' :: rest))) =
        .ok (v.toTree, moreMembers more ('\x7d' :: rest)) :=
      value_write v hwords.1 (by omega) (boundary_moreMembers more rest) (by omega)
    have hmore : members excuse fuel depth ((.ok key, v.toTree) :: acc)
          (moreMembers more ('\x7d' :: rest)) =
        .ok (.obj (((.ok key, v.toTree) :: acc).reverse ++ membersToTrees more), rest) :=
      members_moreMembers more (List.cons_ne_nil _ _) hwords.2 (by omega) (by omega)
    rw [moreMembers, writeMembers_cons, members_next hacc key hv, hmore, List.reverse_cons,
      List.append_assoc]
    rfl

end

end Reader

/-- The text of a value fits the grammar, and its syntax tree is that of the value. -/
theorem Reader.whole_render {ε : Type} {excuse : Excuse ε} {v : Json} (hwords : v.HasWords)
    (hdepth : v.nesting ≤ nestingLimit) : whole excuse v.render = .ok v.toTree := by
  unfold whole render
  rw [String.toList_ofList]
  exact bind_eq_ok_of (value_write v hwords hdepth .nothing (Nat.le_add_right _ _)) rfl

/-- The syntax tree of the text of a value is that of the value. -/
theorem parse?_render {v : Json} (hwords : v.HasWords) (hdepth : v.nesting ≤ nestingLimit) :
    Tree.parse? v.render = some v.toTree := by
  unfold Tree.parse?
  rw [Reader.whole_render hwords hdepth]
  rfl

/-- A value whose members are in order is read back from its text. -/
theorem parse_render {v : Json} (horder : v.InOrder) (hwords : v.HasWords)
    (hdepth : v.nesting ≤ nestingLimit) : parse v.render = .ok v := by
  unfold parse
  rw [Reader.whole_render hwords hdepth]
  unfold Tree.sound
  dsimp only
  rw [toJson_toTree v horder]

end LiveMap.Json
