import LiveMap.Json.Reader
import LiveMap.Proofs.Doubles
import LiveMap.Proofs.Failable

/-!
# Numbers that are read are finite

A numeral whose value is beyond the doubles is refused or marked when it is read. So all numbers of
a tree that was read are finite as doubles, those of integers included. Main statement:
`hasFiniteNumbers_of_parse?`. It is an induction on the fuel of the reader.
-/

namespace LiveMap.Json

/-! ## Numerals -/

/-- Scaling a finite double by a power of ten leaves a finite one, unless it refuses to. -/
theorem isFinite_of_scaled {f x : Float} {steps : Nat} {scale : Int} (hf : f.isFinite = true)
    (h : scaled f steps scale = some x) : x.isFinite = true := by
  induction steps generalizing f scale with
  | zero =>
    cases h
    decide
  | succ steps ih =>
    unfold scaled at h
    split at h
    · next hpos =>
      split at h
      · next hle =>
        dsimp only at h
        split at h
        · cases h
        · next hinf =>
          cases h
          exact Doubles.isFinite_mul hf (Doubles.isFinite_powerOfTen (by omega))
            (Bool.eq_false_iff.2 hinf)
      · split at h
        · cases h
          exact hf
        · cases h
    · next hneg =>
      split at h
      · cases h
        exact Doubles.isFinite_div hf (Doubles.isLarge_powerOfTen (by omega) (by omega))
      · split at h
        · cases h
          exact hf
        · have hlast := Doubles.isLarge_powerOfTen (by decide) (Nat.le_refl 308)
          exact ih (Doubles.isFinite_div hf hlast) h

/-- A double with a sign is finite if it is without. -/
theorem isFinite_signed {negative : Bool} {x : Float} (h : x.isFinite = true) :
    (signed negative x).isFinite = true := by
  cases negative with
  | false => exact h
  | true => exact Doubles.isFinite_neg h

/-- The double that digits stand for is finite. -/
theorem Numeral.isFinite_of_toFloat? {negative : Bool} {c : Collected} {exponent : Int} {x : Float}
    (h : toFloat? negative c exponent = some x) : x.isFinite = true := by
  obtain ⟨y, hscaled, rfl⟩ := Option.map_eq_some_iff.1 h
  exact isFinite_signed (isFinite_of_scaled (Doubles.isFinite_toFloat _) hscaled)

/-- An integer is finite as a double. -/
theorem Number.isFinite_int (n : Int) : (Number.int n).toFloat.isFinite = true := by
  unfold Number.toFloat
  dsimp only
  split
  · exact Doubles.isFinite_toFloat _
  · exact Doubles.isFinite_neg (Doubles.isFinite_toFloat _)

/-- The number that a numeral stands for is finite as a double. -/
theorem Numeral.isFinite_of_value {n : Numeral} {v : Number} (h : n.value = .ok v) :
    v.toFloat.isFinite = true := by
  unfold Numeral.value at h
  dsimp only at h
  split at h
  · split at h
    · cases h
      exact Number.isFinite_int _
    · split at h
      · next hx =>
        cases h
        exact isFinite_of_toFloat? hx
      · cases h
  · split at h
    · split at h
      · next hx =>
        cases h
        exact isFinite_of_toFloat? hx
      · cases h
    · split at h
      · cases h
      · cases h
        exact isFinite_signed (by decide)

/-! ## Trees -/

namespace Tree

variable {ε : Type}

mutual

/-- Whether all numbers of a tree are finite as doubles. -/
def HasFiniteNumbers : Tree ε → Prop
  | num (.ok n) => n.toFloat.isFinite = true
  | arr items => ItemsFinite items
  | obj members => MembersFinite members
  | _ => True

/-- Whether all numbers of some trees are finite as doubles. -/
def ItemsFinite : List (Tree ε) → Prop
  | [] => True
  | t :: rest => HasFiniteNumbers t ∧ ItemsFinite rest

/-- Whether all numbers of the values of some members are finite as doubles. -/
def MembersFinite : List (Except ε String × Tree ε) → Prop
  | [] => True
  | (_, t) :: rest => HasFiniteNumbers t ∧ MembersFinite rest

end

theorem itemsFinite_nil : ItemsFinite ([] : List (Tree ε)) := trivial

theorem membersFinite_nil : MembersFinite ([] : List (Except ε String × Tree ε)) := trivial

theorem itemsFinite_cons {t : Tree ε} {rest : List (Tree ε)} :
    ItemsFinite (t :: rest) ↔ t.HasFiniteNumbers ∧ ItemsFinite rest := Iff.rfl

theorem membersFinite_cons {key : Except ε String} {t : Tree ε}
    {rest : List (Except ε String × Tree ε)} :
    MembersFinite ((key, t) :: rest) ↔ t.HasFiniteNumbers ∧ MembersFinite rest := Iff.rfl

/-- Trees are finite if each of them is. -/
theorem itemsFinite_iff {items : List (Tree ε)} :
    ItemsFinite items ↔ ∀ t ∈ items, t.HasFiniteNumbers := by
  induction items with
  | nil => exact ⟨fun _ t ht => (by cases ht), fun _ => trivial⟩
  | cons t rest ih => rw [ItemsFinite, ih, List.forall_mem_cons]

/-- Members are finite if the value of each of them is. -/
theorem membersFinite_iff {members : List (Except ε String × Tree ε)} :
    MembersFinite members ↔ ∀ m ∈ members, m.2.HasFiniteNumbers := by
  induction members with
  | nil => exact ⟨fun _ m hm => (by cases hm), fun _ => trivial⟩
  | cons m rest ih => rw [MembersFinite, ih, List.forall_mem_cons]

end Tree

namespace Reader

open LiveMap.Json.Tree

variable {ε : Type} {excuse : Excuse ε}

/-- A number that is read is finite as a double. -/
theorem hasFiniteNumbers_of_number {text rest : List Char} {t : Tree ε}
    (h : number excuse text = .ok (t, rest)) : t.HasFiniteNumbers := by
  obtain ⟨⟨n, rest₁⟩, -, h⟩ := exists_of_bind_eq_ok h
  dsimp only at h
  split at h
  · next hv =>
    cases h
    exact Numeral.isFinite_of_value hv
  · obtain ⟨mark, -, h⟩ := exists_of_bind_eq_ok h
    cases h
    trivial

/-- What the reader reads, on some fuel, has only finite numbers. -/
structure ReadsFinite (excuse : Excuse ε) (fuel : Nat) : Prop where
  /-- A value. -/
  value : ∀ {depth text t rest}, value excuse fuel depth text = .ok (t, rest) → t.HasFiniteNumbers
  /-- The rest of an array. -/
  elements : ∀ {depth acc text t rest}, ItemsFinite acc →
    elements excuse fuel depth acc text = .ok (t, rest) → t.HasFiniteNumbers
  /-- The rest of an object. -/
  members : ∀ {depth acc text t rest}, MembersFinite acc →
    members excuse fuel depth acc text = .ok (t, rest) → t.HasFiniteNumbers
  /-- A member and the rest of its object. -/
  member : ∀ {depth acc text t rest}, MembersFinite acc →
    member excuse fuel depth acc text = .ok (t, rest) → t.HasFiniteNumbers

namespace ReadsFinite

variable {fuel depth : Nat} {text rest : List Char} {t : Tree ε}

/-- A value on one fuel more. -/
theorem value_succ (ih : ReadsFinite excuse fuel)
    (h : Reader.value excuse (fuel + 1) depth text = .ok (t, rest)) : t.HasFiniteNumbers := by
  rw [Reader.value] at h
  split at h
  · cases h
  · obtain ⟨_, -, h⟩ := exists_of_bind_eq_ok h
    cases h
    trivial
  · obtain ⟨_, -, h⟩ := exists_of_bind_eq_ok h
    cases h
    trivial
  · obtain ⟨_, -, h⟩ := exists_of_bind_eq_ok h
    cases h
    trivial
  · obtain ⟨_, -, h⟩ := exists_of_bind_eq_ok h
    cases h
    trivial
  · obtain ⟨inner, -, h⟩ := exists_of_bind_eq_ok h
    exact ih.elements itemsFinite_nil h
  · obtain ⟨inner, -, h⟩ := exists_of_bind_eq_ok h
    exact ih.members membersFinite_nil h
  · split at h
    · exact hasFiniteNumbers_of_number h
    · cases h

/-- The rest of an array on one fuel more. -/
theorem elements_succ (ih : ReadsFinite excuse fuel) {acc : List (Tree ε)} (hacc : ItemsFinite acc)
    (h : Reader.elements excuse (fuel + 1) depth acc text = .ok (t, rest)) :
    t.HasFiniteNumbers := by
  have hnext : ∀ {text}, (Reader.value excuse fuel depth text >>= fun read =>
      Reader.elements excuse fuel depth (read.1 :: acc) read.2) = .ok (t, rest) →
        t.HasFiniteNumbers := by
    intro text h
    obtain ⟨⟨u, after⟩, hu, h⟩ := exists_of_bind_eq_ok h
    exact ih.elements (itemsFinite_cons.2 ⟨ih.value hu, hacc⟩) h
  rw [Reader.elements] at h
  split at h
  · cases h
  · cases h
    exact itemsFinite_iff.2 fun u hu => itemsFinite_iff.1 hacc u (List.mem_reverse.1 hu)
  · split at h
    · exact hnext h
    · split at h
      · split at h
        · cases h
        · exact hnext h
      · cases h

/-- The rest of an object on one fuel more. -/
theorem members_succ (ih : ReadsFinite excuse fuel) {acc : List (Except ε String × Tree ε)}
    (hacc : MembersFinite acc)
    (h : Reader.members excuse (fuel + 1) depth acc text = .ok (t, rest)) : t.HasFiniteNumbers := by
  rw [Reader.members] at h
  split at h
  · cases h
  · cases h
    exact membersFinite_iff.2 fun u hu => membersFinite_iff.1 hacc u (List.mem_reverse.1 hu)
  · split at h
    · exact ih.member hacc h
    · split at h
      · split at h
        · cases h
        · cases h
        · exact ih.member hacc h
      · cases h

/-- A member on one fuel more. -/
theorem member_succ (ih : ReadsFinite excuse fuel) {acc : List (Except ε String × Tree ε)}
    (hacc : MembersFinite acc)
    (h : Reader.member excuse (fuel + 1) depth acc text = .ok (t, rest)) : t.HasFiniteNumbers := by
  unfold Reader.member at h
  split at h
  · obtain ⟨⟨key, rest₁⟩, -, h⟩ := exists_of_bind_eq_ok h
    obtain ⟨rest₂, -, h⟩ := exists_of_bind_eq_ok h
    obtain ⟨⟨u, rest₃⟩, hu, h⟩ := exists_of_bind_eq_ok h
    exact ih.members (membersFinite_cons.2 ⟨ih.value hu, hacc⟩) h
  · cases h

end ReadsFinite

/-- On any fuel, what the reader reads has only finite numbers. -/
theorem readsFinite (excuse : Excuse ε) (fuel : Nat) : ReadsFinite excuse fuel := by
  induction fuel with
  | zero =>
    -- Without fuel nothing is read.
    constructor
    · intro depth text t rest h
      rw [Reader.value] at h
      cases h
    · intro depth acc text t rest _ h
      rw [Reader.elements] at h
      cases h
    · intro depth acc text t rest _ h
      rw [Reader.members] at h
      cases h
    · intro depth acc text t rest _ h
      rw [Reader.member] at h
      cases h
  | succ fuel ih => exact ⟨ih.value_succ, ih.elements_succ, ih.members_succ, ih.member_succ⟩

end Reader

/-- All numbers of a text that fits the grammar are finite as doubles, apart from those that are
marked. -/
theorem hasFiniteNumbers_of_parse? {text : String} {t : Tree Unit} (h : Tree.parse? text = some t) :
    t.HasFiniteNumbers := by
  obtain ⟨u, hwhole, rfl⟩ := exists_of_map_toOption_eq_some (f := id) (by rwa [Option.map_id])
  obtain ⟨⟨u, rest⟩, hvalue, hend⟩ := exists_of_bind_eq_ok hwhole
  dsimp only at hend
  split at hend
  · cases hend
    exact (Reader.readsFinite _ _).value hvalue
  · cases hend

end LiveMap.Json
