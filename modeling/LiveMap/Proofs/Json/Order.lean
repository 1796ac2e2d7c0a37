import LiveMap.Json.Reader
import LiveMap.Proofs.Failable

/-!
# Equality of JSON values that were read

Values are compared member by member, in the order in which the members stand (`Json.beq`). A value
that was read has the members of all its objects in ascending order of distinct keys
(`inOrder_of_parse`), and between such values the comparison comes to what equality of JSON values
is meant to be: two objects are the same if they have the same keys and the same values under them
(`Same`), in whichever order they were written.

A number with a point is compared as a double, and not every double equals itself. Values in which
all numbers are integers equal themselves (`beq_self_of_isDiscrete`).

Main statement: `beq_iff_same`.
-/

namespace LiveMap.Json

/-! ## Order of the members -/

mutual

/-- Whether the members of all objects inside a value stand in ascending order. -/
def InOrder : Json → Prop
  | arr items => ItemsInOrder items
  | obj members => Keyed.Ascending members ∧ MembersInOrder members
  | _ => True

/-- Whether all items are in order. -/
def ItemsInOrder : List Json → Prop
  | [] => True
  | v :: rest => InOrder v ∧ ItemsInOrder rest

/-- Whether the values of all members are in order. -/
def MembersInOrder : List (String × Json) → Prop
  | [] => True
  | (_, v) :: rest => InOrder v ∧ MembersInOrder rest

end

variable {key : String} {a b v : Json} {members as bs : List (String × Json)}

/-- The values of the members are in order if the members are. -/
theorem MembersInOrder.of_mem (h : MembersInOrder members) (hv : (key, v) ∈ members) :
    InOrder v := by
  induction members with
  | nil => cases hv
  | cons e rest ih =>
    rcases List.mem_cons.1 hv with rfl | hrest
    · exact h.1
    · exact ih h.2 hrest

/-- Members are in order if their values are. -/
theorem membersInOrder_of_forall (h : ∀ key v, (key, v) ∈ members → InOrder v) :
    MembersInOrder members := by
  induction members with
  | nil => trivial
  | cons e rest ih =>
    exact ⟨h e.1 e.2 List.mem_cons_self,
      ih fun key v hv => h key v (List.mem_cons_of_mem _ hv)⟩

/-- A member of an object in order is in order. -/
theorem InOrder.find? (h : InOrder (obj members)) (hv : Keyed.find? key members = some v) :
    InOrder v :=
  h.2.of_mem (Keyed.mem_of_find?_eq_some hv)

/-! ## Values that were read -/

/-- Inserting adds at most the one entry. -/
theorem mem_insert {j : String} {w : Json} (h : (j, w) ∈ Keyed.insert key v members) :
    (j, w) = (key, v) ∨ (j, w) ∈ members := by
  induction members with
  | nil => exact Or.inl (List.mem_singleton.1 h)
  | cons e rest ih =>
    rw [Keyed.insert] at h
    split at h
    · rcases List.mem_cons.1 h with h | h
      · exact Or.inl h
      · exact Or.inr (List.mem_cons_of_mem _ h)
    split at h
    · rcases List.mem_cons.1 h with h | h
      · exact Or.inl h
      · exact Or.inr h
    · rcases List.mem_cons.1 h with h | h
      · exact Or.inr (h ▸ List.mem_cons_self)
      · rcases ih h with h | h
        · exact Or.inl h
        · exact Or.inr (List.mem_cons_of_mem _ h)

/-- Sorting into a table keeps the table ascending, and all its entries come from the members or
the table. -/
theorem sortInto_spec (members table : List (String × Json)) (h : Keyed.Ascending table) :
    Keyed.Ascending (members.foldl (fun table (k, v) => Keyed.insert k v table) table) ∧
      ∀ e ∈ members.foldl (fun table (k, v) => Keyed.insert k v table) table,
        e ∈ members ∨ e ∈ table := by
  induction members generalizing table with
  | nil => exact ⟨h, fun e he => Or.inr he⟩
  | cons e rest ih =>
    obtain ⟨hasc, hfrom⟩ := ih (Keyed.insert e.1 e.2 table) h.insert
    refine ⟨hasc, fun f hf => ?_⟩
    rcases hfrom f hf with hrest | htable
    · exact Or.inl (List.mem_cons_of_mem _ hrest)
    · rcases mem_insert htable with he | htable
      · exact Or.inl (List.mem_cons.2 (Or.inl he))
      · exact Or.inr htable

/-- Sorted members ascend. -/
theorem ascending_sortMembers (members : List (String × Json)) :
    Keyed.Ascending (sortMembers members) :=
  (sortInto_spec members [] List.Pairwise.nil).1

/-- Sorting makes up no member. -/
theorem mem_of_mem_sortMembers (h : (key, v) ∈ sortMembers members) : (key, v) ∈ members := by
  rcases (sortInto_spec members [] List.Pairwise.nil).2 _ h with h | h
  · exact h
  · cases h

/-- An object with sorted members is in order if the values of its members are. -/
theorem inOrder_obj_sortMembers (h : MembersInOrder members) :
    InOrder (obj (sortMembers members)) :=
  ⟨ascending_sortMembers members,
    membersInOrder_of_forall fun _ _ hv => h.of_mem (mem_of_mem_sortMembers hv)⟩

namespace Tree

variable {ε : Type}

-- The induction is on the tree, with the sequences and the members beside it. Only the members of
-- an object are moved, and `inOrder_obj_sortMembers` says that they end up in order.
mutual

/-- The value of a tree is in order. -/
theorem inOrder_of_toJson : (t : Tree ε) → ∀ {w : Json}, t.toJson = .ok w → InOrder w
  | null, _, h | bool _, _, h => by
    cases h
    trivial
  | num (.ok _), _, h | str (.ok _), _, h => by
    cases h
    trivial
  | num (.error _), _, h | str (.error _), _, h => nomatch h
  | arr ts, w, h => by
    obtain ⟨ws, hws, hw⟩ := exists_of_bind_eq_ok h
    cases hw
    exact itemsInOrder_of_toJson ts hws
  | obj ms, w, h => by
    obtain ⟨ws, hws, hw⟩ := exists_of_bind_eq_ok h
    cases hw
    exact inOrder_obj_sortMembers (membersInOrder_of_toJson ms hws)

/-- The values of a sequence of trees are in order. -/
theorem itemsInOrder_of_toJson :
    (ts : List (Tree ε)) → ∀ {ws : List Json}, itemsToJson ts = .ok ws → ItemsInOrder ws
  | [], _, h => by
    cases h
    trivial
  | t :: rest, _, h => by
    obtain ⟨w, hw, h⟩ := exists_of_bind_eq_ok h
    obtain ⟨ws, hws, h⟩ := exists_of_bind_eq_ok h
    cases h
    exact ⟨inOrder_of_toJson t hw, itemsInOrder_of_toJson rest hws⟩

/-- The values of members are in order. -/
theorem membersInOrder_of_toJson :
    (ms : List (Except ε String × Tree ε)) →
      ∀ {ws : List (String × Json)}, membersToJson ms = .ok ws → MembersInOrder ws
  | [], _, h => by
    cases h
    trivial
  | (key, t) :: rest, _, h => by
    obtain ⟨_, -, h⟩ := exists_of_bind_eq_ok h
    obtain ⟨w, hw, h⟩ := exists_of_bind_eq_ok h
    obtain ⟨ws, hws, h⟩ := exists_of_bind_eq_ok h
    cases h
    exact ⟨inOrder_of_toJson t hw, membersInOrder_of_toJson rest hws⟩

end

/-- Where nothing can be spoiled, every tree has its value. -/
theorem toJson_eq_ok_sound (t : Tree Empty) : t.toJson = .ok t.sound := by
  unfold sound
  split
  · next v h => exact h
  · next mark h => exact mark.elim

end Tree

/-- What a text stands for is in order. -/
theorem inOrder_of_parse {text : String} (h : parse text = .ok v) : InOrder v := by
  unfold parse at h
  split at h
  · next t ht =>
    cases h
    exact t.inOrder_of_toJson t.toJson_eq_ok_sound
  · cases h

/-! ## Sameness -/

mutual

/-- Whether two values are the same as JSON values: of two objects the keys are to be the same and
the values under each key, whatever the order. -/
def Same : Json → Json → Prop
  | null, null => True
  | bool a, bool b => a = b
  | num a, num b => (a == b) = true
  | str a, str b => a = b
  | arr as, arr bs => SameItems as bs
  | obj as, obj bs =>
    SameMembers as bs ∧ ∀ key, Keyed.find? key as = none → Keyed.find? key bs = none
  | _, _ => False

/-- Whether two sequences are the same, item by item. -/
def SameItems : List Json → List Json → Prop
  | [], [] => True
  | a :: as, b :: bs => Same a b ∧ SameItems as bs
  | _, _ => False

/-- Whether each member stands in another object too, under the same key with the same value. -/
def SameMembers : List (String × Json) → List (String × Json) → Prop
  | [], _ => True
  | (key, a) :: as, bs => (∃ b, Keyed.find? key bs = some b ∧ Same a b) ∧ SameMembers as bs

end

/-- A member under a key that the others do not have makes no difference to them. -/
theorem sameMembers_cons_iff (h : key ∉ as.map Prod.fst) :
    SameMembers as ((key, b) :: bs) ↔ SameMembers as bs := by
  induction as with
  | nil => exact Iff.rfl
  | cons e rest ih =>
    rw [List.map_cons, List.mem_cons, not_or] at h
    have hhead : Keyed.find? e.1 ((key, b) :: bs) = Keyed.find? e.1 bs := by
      rw [Keyed.find?, if_neg h.1]
    rw [SameMembers, SameMembers, hhead, ih h.2]

/-- In ascending tables with the same keys the first keys are the same. -/
theorem first_key_eq {l : String} (hbs : Keyed.Ascending ((l, b) :: bs))
    (has : Keyed.Ascending ((key, a) :: as)) (hk : key ∈ ((l, b) :: bs).map Prod.fst)
    (hl : l ∈ ((key, a) :: as).map Prod.fst) : key = l := by
  rcases List.mem_cons.1 hk with h | hk
  · exact h
  rcases List.mem_cons.1 hl with h | hl
  · exact h.symm
  have hlt : l < key := (List.pairwise_cons.1 hbs).1 key hk
  have hgt : key < l := (List.pairwise_cons.1 has).1 l hl
  exact absurd (String.lt_trans hlt hgt) (String.lt_irrefl _)

-- The induction is on the first value. Values of different kinds are neither equal nor the same, so
-- only the cases of one kind are left to argue.
mutual

/-- Between values in order, the comparison member by member decides whether they are the same. -/
theorem beq_iff_same : (a : Json) → ∀ {b : Json}, InOrder a → InOrder b →
    ((a == b) = true ↔ Same a b)
  | null, b, _, _ => by cases b <;> simp [BEq.beq, beq, Same]
  | bool _, b, _, _ => by cases b <;> simp [BEq.beq, beq, Same]
  | num _, b, _, _ => by cases b <;> simp [BEq.beq, beq, Same]
  | str _, b, _, _ => by cases b <;> simp [BEq.beq, beq, Same]
  | arr as, b, ha, hb => by
    cases b with
    | arr bs => exact beqItems_iff_sameItems as ha hb
    | null | bool | num | str | obj => simp [BEq.beq, beq, Same]
  | obj as, b, ha, hb => by
    cases b with
    | obj bs => exact beqMembers_iff_sameMembers as ha.1 hb.1 ha.2 hb.2
    | null | bool | num | str | arr => simp [BEq.beq, beq, Same]

/-- Sequences in order compare equal exactly if they are the same. -/
theorem beqItems_iff_sameItems : (as : List Json) → ∀ {bs : List Json}, ItemsInOrder as →
    ItemsInOrder bs → (beqItems as bs = true ↔ SameItems as bs)
  | [], bs, _, _ => by cases bs <;> simp [beqItems, SameItems]
  | a :: as, [], _, _ => by simp [beqItems, SameItems]
  | a :: as, b :: bs, ha, hb => by
    rw [beqItems, SameItems, Bool.and_eq_true, beqItems_iff_sameItems as ha.2 hb.2]
    exact and_congr_left' (beq_iff_same a ha.1 hb.1)

/-- Ascending members in order compare equal exactly if they have the same keys and the same values
under them. -/
theorem beqMembers_iff_sameMembers : (as : List (String × Json)) → ∀ {bs : List (String × Json)},
    Keyed.Ascending as → Keyed.Ascending bs → MembersInOrder as → MembersInOrder bs →
    (beqMembers as bs = true ↔
      SameMembers as bs ∧ ∀ key, Keyed.find? key as = none → Keyed.find? key bs = none)
  | [], [], _, _, _, _ => by simp [beqMembers, SameMembers]
  | [], (l, b) :: bs, _, _, _, _ => by
    simp only [beqMembers, SameMembers, true_and, Bool.false_eq_true, false_iff]
    intro h
    have hl := h l rfl
    rw [Keyed.find?, if_pos rfl] at hl
    cases hl
  | (key, a) :: as, [], _, _, _, _ => by
    simp [beqMembers, SameMembers, Keyed.find?]
  | (key, a) :: as, (l, b) :: bs, hasc, hbsc, ha, hb => by
    have hrest := beqMembers_iff_sameMembers as (List.pairwise_cons.1 hasc).2
      (List.pairwise_cons.1 hbsc).2 ha.2 hb.2
    have hvalue := beq_iff_same a ha.1 hb.1
    have hnew : key ∉ as.map Prod.fst := (List.nodup_cons.1 hasc.nodup_keys).1
    rw [beqMembers, Bool.and_eq_true, Bool.and_eq_true, hrest]
    constructor
    · rintro ⟨⟨hk, hab⟩, hsame, hkeys⟩
      obtain rfl : key = l := eq_of_beq hk
      have hfound : Keyed.find? key ((key, b) :: bs) = some b := if_pos rfl
      refine ⟨⟨⟨b, hfound, hvalue.1 hab⟩, (sameMembers_cons_iff hnew).2 hsame⟩, fun k hk => ?_⟩
      by_cases hkey : key = k
      · rw [Keyed.find?, if_pos hkey] at hk
        cases hk
      · rw [Keyed.find?, if_neg hkey] at hk ⊢
        exact hkeys k hk
    · rintro ⟨⟨⟨c, hc, hac⟩, hsame⟩, hkeys⟩
      -- Each first key is a key of the other object, and neither object has a key before its first.
      have hkmem : key ∈ ((l, b) :: bs).map Prod.fst :=
        Keyed.find?_ne_none_iff.1 (hc ▸ Option.some_ne_none c)
      have hlmem : l ∈ ((key, a) :: as).map Prod.fst := by
        refine Keyed.find?_ne_none_iff.1 fun hnone => ?_
        exact Keyed.find?_ne_none_iff.2 List.mem_cons_self (hkeys l hnone)
      obtain rfl : key = l := first_key_eq hbsc hasc hkmem hlmem
      rw [Keyed.find?, if_pos rfl] at hc
      cases hc
      refine ⟨⟨beq_self_eq_true _, hvalue.2 hac⟩, (sameMembers_cons_iff hnew).1 hsame,
        fun k hk => ?_⟩
      by_cases hkey : key = k
      · exact Keyed.find?_eq_none_of_not_mem (hkey ▸ (List.nodup_cons.1 hbsc.nodup_keys).1)
      · have hnone := hkeys k (by rw [Keyed.find?, if_neg hkey, hk])
        rwa [Keyed.find?, if_neg hkey] at hnone

end

/-! ## Values without doubles -/

mutual

/-- Whether all numbers inside a value are integers. -/
def isDiscrete : Json → Bool
  | num (.float _) => false
  | arr items => areDiscrete items
  | obj members => areDiscreteMembers members
  | _ => true

/-- Whether all numbers inside some items are integers. -/
def areDiscrete : List Json → Bool
  | [] => true
  | v :: rest => isDiscrete v && areDiscrete rest

/-- Whether all numbers inside the values of some members are integers. -/
def areDiscreteMembers : List (String × Json) → Bool
  | [] => true
  | (_, v) :: rest => isDiscrete v && areDiscreteMembers rest

end

mutual

/-- A value without doubles equals itself. -/
theorem beq_self_of_isDiscrete : (v : Json) → v.isDiscrete = true → (v == v) = true
  | null, _ => rfl
  | bool b, _ => beq_self_eq_true b
  | num (.int n), _ => beq_self_eq_true n
  | str s, _ => beq_self_eq_true s
  | arr items, h => beqItems_self_of_areDiscrete items h
  | obj members, h => beqMembers_self_of_areDiscreteMembers members h

/-- Items without doubles equal themselves. -/
theorem beqItems_self_of_areDiscrete :
    (items : List Json) → areDiscrete items = true → beqItems items items = true
  | [], _ => rfl
  | v :: rest, h => by
    obtain ⟨hv, hrest⟩ := Bool.and_eq_true_iff.1 h
    exact Bool.and_eq_true_iff.2
      ⟨beq_self_of_isDiscrete v hv, beqItems_self_of_areDiscrete rest hrest⟩

/-- Members without doubles equal themselves. -/
theorem beqMembers_self_of_areDiscreteMembers : (members : List (String × Json)) →
    areDiscreteMembers members = true → beqMembers members members = true
  | [], _ => rfl
  | (key, v) :: rest, h => by
    obtain ⟨hv, hrest⟩ := Bool.and_eq_true_iff.1 h
    rw [beqMembers, beq_self_eq_true, Bool.true_and]
    exact Bool.and_eq_true_iff.2
      ⟨beq_self_of_isDiscrete v hv, beqMembers_self_of_areDiscreteMembers rest hrest⟩

end

end LiveMap.Json
