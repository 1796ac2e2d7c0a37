import LiveMap.Proofs.Json.Locality

/-!
# A value is read alike wherever it stands

What the reader returns for a value does not depend on what stands behind the value, as long as this
does not go on with it, nor on how deep the value stands or how much fuel there is beyond what is
enough. Nor does it matter who reads: what any reader returns, the lenient one returns as well, but
for what the marks of spoiled leaves say.

The proof goes by induction on the fuel, one case for each of the four functions of the reader
(`embeds`).

Main statement: `exists_value_of_whole`, for a text that some reader reads as a whole.
-/

namespace LiveMap.Json

/-! ## Trees without their marks -/

namespace Tree

variable {ε : Type}

mutual

/-- A tree whose marks say nothing. -/
def forget : Tree ε → Tree Unit
  | null => .null
  | bool b => .bool b
  | num n => .num (unmark n)
  | str s => .str (unmark s)
  | arr items => .arr (forgetItems items)
  | obj members => .obj (forgetMembers members)

/-- Trees whose marks say nothing. -/
def forgetItems : List (Tree ε) → List (Tree Unit)
  | [] => []
  | t :: rest => forget t :: forgetItems rest

/-- Members whose marks say nothing. -/
def forgetMembers : List (Except ε String × Tree ε) → List (Except Unit String × Tree Unit)
  | [] => []
  | (key, t) :: rest => (unmark key, forget t) :: forgetMembers rest

end

/-- Items are stripped of their marks one by one. -/
theorem forgetItems_eq_map (items : List (Tree ε)) : forgetItems items = items.map forget := by
  induction items with
  | nil => rfl
  | cons t rest ih => rw [forgetItems, ih, List.map_cons]

/-- Members are stripped of their marks one by one. -/
theorem forgetMembers_eq_map (members : List (Except ε String × Tree ε)) :
    forgetMembers members = members.map fun m => (unmark m.1, forget m.2) := by
  induction members with
  | nil => rfl
  | cons m rest ih => rw [forgetMembers, ih, List.map_cons]

/-- It does not matter whether items are stripped of their marks before they are reversed. -/
theorem forgetItems_reverse (items : List (Tree ε)) :
    forgetItems items.reverse = (forgetItems items).reverse := by
  rw [forgetItems_eq_map, forgetItems_eq_map, List.map_reverse]

/-- Nor does it matter for members. -/
theorem forgetMembers_reverse (members : List (Except ε String × Tree ε)) :
    forgetMembers members.reverse = (forgetMembers members).reverse := by
  rw [forgetMembers_eq_map, forgetMembers_eq_map, List.map_reverse]

mutual

/-- A tree in which nothing is spoiled has its value without its marks, too. -/
theorem toJson_forget : (t : Tree ε) → {v : Json} → t.toJson = .ok v → t.forget.toJson = .ok v
  | null, _, h | bool _, _, h => by
    cases h
    rfl
  | num n, _, h | str n, _, h => by
    cases n with
    | error mark => cases h
    | ok n =>
      cases h
      rfl
  | arr items, _, h => by
    obtain ⟨vs, hitems, h⟩ := exists_of_bind_eq_ok h
    cases h
    exact bind_eq_ok_of (itemsToJson_forget items hitems) rfl
  | obj members, _, h => by
    obtain ⟨vs, hmembers, h⟩ := exists_of_bind_eq_ok h
    cases h
    exact bind_eq_ok_of (membersToJson_forget members hmembers) rfl

/-- Items in which nothing is spoiled have their values without their marks, too. -/
theorem itemsToJson_forget : (items : List (Tree ε)) → {vs : List Json} →
    itemsToJson items = .ok vs → itemsToJson (forgetItems items) = .ok vs
  | [], _, h => by
    cases h
    rfl
  | t :: rest, _, h => by
    obtain ⟨v, ht, h⟩ := exists_of_bind_eq_ok h
    obtain ⟨vs, hrest, h⟩ := exists_of_bind_eq_ok h
    cases h
    exact bind_eq_ok_of (toJson_forget t ht) (bind_eq_ok_of (itemsToJson_forget rest hrest) rfl)

/-- Members in which nothing is spoiled have their values without their marks, too. -/
theorem membersToJson_forget : (members : List (Except ε String × Tree ε)) →
    {vs : List (String × Json)} → membersToJson members = .ok vs →
      membersToJson (forgetMembers members) = .ok vs
  | [], _, h => by
    cases h
    rfl
  | (key, t) :: rest, _, h => by
    obtain ⟨k, hkey, h⟩ := exists_of_bind_eq_ok h
    obtain ⟨v, ht, h⟩ := exists_of_bind_eq_ok h
    obtain ⟨vs, hrest, h⟩ := exists_of_bind_eq_ok h
    cases h
    cases key with
    | error mark => cases hkey
    | ok key =>
      cases hkey
      exact bind_eq_ok_of rfl (bind_eq_ok_of (toJson_forget t ht)
        (bind_eq_ok_of (membersToJson_forget rest hrest) rfl))

end

end Tree

/-! ## Values -/

namespace Reader

open LiveMap.Json.Tree (forgetItems forgetMembers)

variable {ε : Type} {excuse : Excuse ε} {text rest suffix : List Char}

/-- A number in front of a boundary. -/
theorem number_append {t : Tree ε} (hs : Boundary suffix)
    (h : number excuse text = .ok (t, rest)) :
    number lenient (text ++ suffix) = .ok (t.forget, rest ++ suffix) := by
  obtain ⟨⟨n, rest'⟩, hn, h⟩ := exists_of_bind_eq_ok h
  refine bind_eq_ok_of (numeral_append hs hn) ?_
  dsimp only at h ⊢
  split at h
  · cases h
    rfl
  · obtain ⟨mark, -, h⟩ := exists_of_bind_eq_ok h
    cases h
    rfl

/-- Where there is nothing there is no value. -/
theorem value_nil (fuel depth : Nat) : value excuse fuel depth [] = stop .eofValue [] := by
  cases fuel with
  | zero => rw [value]
  | succ fuel =>
    rw [value]
    rfl

/-- The lenient reader opens arrays and objects however deep they stand. -/
theorem exists_enter_lenient (depth : Nat) (text : List Char) :
    ∃ inner, enter lenient depth text = .ok inner := by
  cases depth with
  | zero => exact ⟨0, rfl⟩
  | succ depth => exact ⟨depth, rfl⟩

/-- What a reader returns on some fuel, the lenient one returns in front of a boundary, however deep
it stands and on whatever further fuel. -/
structure Embeds (excuse : Excuse ε) (fuel : Nat) : Prop where
  /-- A value. -/
  value : ∀ {fuel' depth depth' text suffix t rest}, fuel ≤ fuel' → Boundary suffix →
    value excuse fuel depth text = .ok (t, rest) →
      value lenient fuel' depth' (text ++ suffix) = .ok (t.forget, rest ++ suffix)
  /-- The rest of an array. -/
  elements : ∀ {fuel' depth depth' acc text suffix t rest}, fuel ≤ fuel' → Boundary suffix →
    elements excuse fuel depth acc text = .ok (t, rest) →
      elements lenient fuel' depth' (forgetItems acc) (text ++ suffix) =
        .ok (t.forget, rest ++ suffix)
  /-- The rest of an object. -/
  members : ∀ {fuel' depth depth' acc text suffix t rest}, fuel ≤ fuel' → Boundary suffix →
    members excuse fuel depth acc text = .ok (t, rest) →
      members lenient fuel' depth' (forgetMembers acc) (text ++ suffix) =
        .ok (t.forget, rest ++ suffix)
  /-- A member and the rest of its object. -/
  member : ∀ {fuel' depth depth' acc text suffix t rest}, fuel ≤ fuel' → Boundary suffix →
    member excuse fuel depth acc text = .ok (t, rest) →
      member lenient fuel' depth' (forgetMembers acc) (text ++ suffix) =
        .ok (t.forget, rest ++ suffix)

namespace Embeds

variable {fuel fuel' depth depth' : Nat} {t : Tree ε}

/-- A value on one fuel more. -/
theorem value_succ (ih : Embeds excuse fuel) (hfuel : fuel + 1 ≤ fuel') (hs : Boundary suffix)
    (h : Reader.value excuse (fuel + 1) depth text = .ok (t, rest)) :
    Reader.value lenient fuel' depth' (text ++ suffix) = .ok (t.forget, rest ++ suffix) := by
  obtain ⟨fuel', rfl⟩ : ∃ k, fuel' = k + 1 := ⟨fuel' - 1, by omega⟩
  have hfuel := Nat.le_of_succ_le_succ hfuel
  have hword : ∀ {letters after : List Char} {leaf : Tree ε},
      (do return (leaf, ← word letters after)) = .ok (t, rest) →
      (do return (leaf.forget, ← word letters (after ++ suffix))) =
        (.ok (t.forget, rest ++ suffix) : Except Mishap (Tree Unit × List Char)) := by
    intro letters after leaf h
    obtain ⟨after', hword, h⟩ := exists_of_bind_eq_ok h
    cases h
    exact bind_eq_ok_of (word_append hword) rfl
  rw [Reader.value] at h ⊢
  split at h
  · cases h
  · next hc =>
    rw [skipBlanks_append_cons hc]
    exact hword h
  · next hc =>
    rw [skipBlanks_append_cons hc]
    exact hword h
  · next hc =>
    rw [skipBlanks_append_cons hc]
    exact hword h
  · next hc =>
    obtain ⟨⟨read, after⟩, hread, h⟩ := exists_of_bind_eq_ok h
    cases h
    rw [skipBlanks_append_cons hc]
    exact bind_eq_ok_of (string_append hread) rfl
  · next hc =>
    obtain ⟨inner, -, h⟩ := exists_of_bind_eq_ok h
    rw [skipBlanks_append_cons hc]
    obtain ⟨inner', hinner⟩ := exists_enter_lenient depth' _
    exact bind_eq_ok_of hinner (ih.elements hfuel hs h)
  · next hc =>
    obtain ⟨inner, -, h⟩ := exists_of_bind_eq_ok h
    rw [skipBlanks_append_cons hc]
    obtain ⟨inner', hinner⟩ := exists_enter_lenient depth' _
    exact bind_eq_ok_of hinner (ih.members hfuel hs h)
  · next c after hnull htrue hfalse hquote hbracket hbrace hc =>
    rw [skipBlanks_append_cons hc]
    split at h
    · next hnumber =>
      have hread := number_append hs h
      split
      · next heq => cases heq
      · next heq => exact absurd (List.cons.inj heq).1 hnull
      · next heq => exact absurd (List.cons.inj heq).1 htrue
      · next heq => exact absurd (List.cons.inj heq).1 hfalse
      · next heq => exact absurd (List.cons.inj heq).1 hquote
      · next heq => exact absurd (List.cons.inj heq).1 hbracket
      · next heq => exact absurd (List.cons.inj heq).1 hbrace
      · next heq =>
        obtain ⟨rfl, rfl⟩ := List.cons.inj heq
        exact (if_pos hnumber).trans hread
    · cases h

/-- The rest of an array on one fuel more. -/
theorem elements_succ {acc : List (Tree ε)} (ih : Embeds excuse fuel) (hfuel : fuel + 1 ≤ fuel')
    (hs : Boundary suffix)
    (h : Reader.elements excuse (fuel + 1) depth acc text = .ok (t, rest)) :
    Reader.elements lenient fuel' depth' (forgetItems acc) (text ++ suffix) =
      .ok (t.forget, rest ++ suffix) := by
  obtain ⟨fuel', rfl⟩ : ∃ k, fuel' = k + 1 := ⟨fuel' - 1, by omega⟩
  have hfuel := Nat.le_of_succ_le_succ hfuel
  have hnext : ∀ {text}, (Reader.value excuse fuel depth text >>= fun read =>
        Reader.elements excuse fuel depth (read.1 :: acc) read.2) = .ok (t, rest) →
      (Reader.value lenient fuel' depth' (text ++ suffix) >>= fun read =>
        Reader.elements lenient fuel' depth' (read.1 :: forgetItems acc) read.2) =
          .ok (t.forget, rest ++ suffix) := by
    intro text h
    obtain ⟨⟨u, after⟩, hu, h⟩ := exists_of_bind_eq_ok h
    exact bind_eq_ok_of (ih.value hfuel hs hu) (ih.elements hfuel hs h)
  have hempty : (forgetItems acc).isEmpty = acc.isEmpty := by cases acc <;> rfl
  rw [Reader.elements] at h ⊢
  split at h
  · cases h
  · next hc =>
    cases h
    rw [skipBlanks_append_cons hc]
    exact congrArg (fun items => Except.ok (Tree.arr items, rest ++ suffix))
      (Tree.forgetItems_reverse acc).symm
  · next c after hbracket hc =>
    rw [skipBlanks_append_cons hc]
    split
    · next heq => cases heq
    · next heq => exact absurd (List.cons.inj heq).1 hbracket
    · next heq =>
      obtain ⟨rfl, rfl⟩ := List.cons.inj heq
      rw [hempty]
      split at h
      · next hfirst =>
        rw [if_pos hfirst]
        exact hnext h
      · next hlater =>
        rw [if_neg hlater]
        split at h
        · next hcomma =>
          rw [if_pos hcomma]
          split at h
          · cases h
          · next hsome =>
            have hne : skipBlanks after ≠ [] := fun hnil => by
              rw [hnil, value_nil] at h
              cases h
            obtain ⟨d, tail, hd⟩ := List.exists_cons_of_ne_nil hne
            rw [hd] at h
            rw [skipBlanks_append_cons hd]
            split
            · next heq =>
              exact absurd (hd.trans (congrArg (· :: tail) (List.cons.inj heq).1)) (hsome tail)
            · exact hnext h
        · cases h

/-- The rest of an object on one fuel more. -/
theorem members_succ {acc : List (Except ε String × Tree ε)} (ih : Embeds excuse fuel)
    (hfuel : fuel + 1 ≤ fuel') (hs : Boundary suffix)
    (h : Reader.members excuse (fuel + 1) depth acc text = .ok (t, rest)) :
    Reader.members lenient fuel' depth' (forgetMembers acc) (text ++ suffix) =
      .ok (t.forget, rest ++ suffix) := by
  obtain ⟨fuel', rfl⟩ : ∃ k, fuel' = k + 1 := ⟨fuel' - 1, by omega⟩
  have hfuel := Nat.le_of_succ_le_succ hfuel
  have hempty : (forgetMembers acc).isEmpty = acc.isEmpty := by cases acc <;> rfl
  rw [Reader.members] at h ⊢
  split at h
  · cases h
  · next hc =>
    cases h
    rw [skipBlanks_append_cons hc]
    exact congrArg (fun members => Except.ok (Tree.obj members, rest ++ suffix))
      (Tree.forgetMembers_reverse acc).symm
  · next c after hbrace hc =>
    rw [skipBlanks_append_cons hc]
    split
    · next heq => cases heq
    · next heq => exact absurd (List.cons.inj heq).1 hbrace
    · next heq =>
      obtain ⟨rfl, rfl⟩ := List.cons.inj heq
      rw [hempty]
      split at h
      · next hfirst =>
        rw [if_pos hfirst]
        exact ih.member hfuel hs h
      · next hlater =>
        rw [if_neg hlater]
        split at h
        · next hcomma =>
          rw [if_pos hcomma]
          split at h
          · cases h
          · cases h
          · next hnil hsome =>
            obtain ⟨d, tail, hd⟩ := List.exists_cons_of_ne_nil hnil
            rw [hd] at h
            rw [skipBlanks_append_cons hd]
            split
            · next heq => cases heq
            · next heq =>
              exact absurd (hd.trans (congrArg (· :: tail) (List.cons.inj heq).1)) (hsome tail)
            · exact ih.member hfuel hs h
        · cases h

/-- A member on one fuel more. -/
theorem member_succ {acc : List (Except ε String × Tree ε)} (ih : Embeds excuse fuel)
    (hfuel : fuel + 1 ≤ fuel') (hs : Boundary suffix)
    (h : Reader.member excuse (fuel + 1) depth acc text = .ok (t, rest)) :
    Reader.member lenient fuel' depth' (forgetMembers acc) (text ++ suffix) =
      .ok (t.forget, rest ++ suffix) := by
  obtain ⟨fuel', rfl⟩ : ∃ k, fuel' = k + 1 := ⟨fuel' - 1, by omega⟩
  have hfuel := Nat.le_of_succ_le_succ hfuel
  unfold Reader.member at h
  split at h
  · obtain ⟨⟨key, rest₁⟩, hkey, h⟩ := exists_of_bind_eq_ok h
    obtain ⟨rest₂, hcolon, h⟩ := exists_of_bind_eq_ok h
    obtain ⟨⟨u, rest₃⟩, hu, h⟩ := exists_of_bind_eq_ok h
    rw [List.cons_append, Reader.member]
    exact bind_eq_ok_of (string_append hkey) (bind_eq_ok_of (colon_append hcolon)
      (bind_eq_ok_of (ih.value hfuel hs hu) (ih.members hfuel hs h)))
  · cases h


end Embeds

/-- On any fuel, what a reader returns, the lenient one returns in front of a boundary. -/
theorem embeds (excuse : Excuse ε) (fuel : Nat) : Embeds excuse fuel := by
  induction fuel with
  | zero =>
    -- Without fuel nothing is read.
    constructor
    · intro fuel' depth depth' text suffix t rest _ _ h
      rw [Reader.value] at h
      cases h
    · intro fuel' depth depth' acc text suffix t rest _ _ h
      rw [Reader.elements] at h
      cases h
    · intro fuel' depth depth' acc text suffix t rest _ _ h
      rw [Reader.members] at h
      cases h
    · intro fuel' depth depth' acc text suffix t rest _ _ h
      rw [Reader.member] at h
      cases h
  | succ fuel ih => exact ⟨ih.value_succ, ih.elements_succ, ih.members_succ, ih.member_succ⟩

/-- A text that is a value, read in front of a boundary: its tree is read, and what is left is the
boundary, perhaps behind blanks. -/
theorem exists_value_of_whole {text : String} {t : Tree ε} (h : whole excuse text = .ok t)
    {fuel : Nat} (depth : Nat) {suffix : List Char}
    (hfuel : 3 * text.toList.length + 3 ≤ fuel) (hs : Boundary suffix) :
    ∃ rest, value lenient fuel depth (text.toList ++ suffix) = .ok (t.forget, rest ++ suffix) ∧
      skipBlanks rest = [] := by
  obtain ⟨⟨u, rest⟩, hvalue, h⟩ := exists_of_bind_eq_ok h
  dsimp only at h
  split at h
  · next hrest =>
    cases h
    exact ⟨rest, (embeds excuse _).value hfuel hs hvalue, hrest⟩
  · cases h

end Reader

/-- What any reader reads as a whole text, the lenient one reads as well. -/
theorem Tree.parse?_of_whole {ε : Type} {excuse : Excuse ε} {text : String} {t : Tree ε}
    (h : Reader.whole excuse text = .ok t) : Tree.parse? text = some t.forget := by
  obtain ⟨rest, hvalue, hrest⟩ :=
    Reader.exists_value_of_whole h nestingLimit (Nat.le_refl _) .nothing
  rw [List.append_nil, List.append_nil] at hvalue
  have hwhole : Reader.whole Reader.lenient text = .ok t.forget := by
    refine bind_eq_ok_of hvalue ?_
    dsimp only
    rw [hrest]
    rfl
  exact congrArg Except.toOption hwhole

/-- A text that stands for a value was read as a whole, by the reader that excuses nothing. -/
theorem exists_whole_of_parse {text : String} {v : Json} (h : parse text = .ok v) :
    ∃ (excuse : Excuse Empty) (t : Tree Empty), Reader.whole excuse text = .ok t ∧ t.sound = v := by
  unfold parse at h
  split at h
  · next t ht =>
    cases h
    exact ⟨_, t, ht, rfl⟩
  · cases h

end LiveMap.Json
