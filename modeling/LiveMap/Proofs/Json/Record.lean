import LiveMap.Json.Record
import LiveMap.Proofs.Json.Order

/-!
# What a record is read from

Reading a record stops at the first fault in the order of the value. Here the same is said without
an order: a value gives each field something or nothing (`given?`), by the name of a member or by
the place of an element, and the record is read exactly if every field accepts what it is given
(`Reads`). So members that belong to no field do not matter, and neither does the order in which
members stand.

Main statement: `read_eq_ok_iff`.
-/

namespace LiveMap.Json.Record

/-- What a value gives to the fields, in order. An object gives the members of their names, and an
array its elements; an array that has more elements than there are fields, and a value of another
kind, give nothing at all. -/
def given? (fields : List Field) : Json → Option (List (Option Json))
  | .obj members => some (fields.map fun f => Keyed.find? f.name members)
  | .arr items =>
    if items.length ≤ fields.length then
      some (items.map some ++ List.replicate (fields.length - items.length) none)
    else none
  | _ => none

/-- Whether each field reads what it is given as the value beside it. -/
def Reads : (fields : List Field) → List (Option Json) → FieldValues fields → Prop
  | [], [], _ => True
  | f :: rest, o :: os, values => readField f o = .ok values.1 ∧ Reads rest os values.2
  | _, _, _ => False

variable {record : Record} {fields : List Field} {members : List (String × Json)} {key : String}
  {v : Json}

/-! ## Fields

What each type of field reads. An absent field is given nothing; null is a value that some types
take for nothing. -/

section

variable {name : String} {o : Option Json}

/-- What is given, where null stands for nothing. -/
def present? : Option Json → Option Json
  | some .null => none
  | o => o

/-- Nothing is present exactly if nothing or null is given. -/
theorem present?_eq_none_iff : present? o = none ↔ o = none ∨ o = some .null := by
  cases o with
  | none => simp [present?]
  | some v => cases v <;> simp [present?]

/-- What is not null is present. -/
theorem present?_of_ne_null (h : v ≠ .null) : present? (some v) = some v := by
  cases v with
  | null => exact absurd rfl h
  | bool | num | str | arr | obj => rfl

/-- A text is present exactly if it is given. -/
theorem present?_eq_some_str_iff {s : String} :
    present? o = some (.str s) ↔ o = some (.str s) := by
  cases o with
  | none => simp [present?]
  | some v => cases v <;> simp [present?]

/-- A text is read from a text. -/
theorem readField_text_iff {s : String} :
    readField ⟨name, .text⟩ o = .ok s ↔ o = some (.str s) := by
  cases o with
  | none => simp [readField, FieldType.absent?]
  | some v => cases v <;> simp [readField, FieldType.read, FieldType.readText]

/-- A double is read from a number. -/
theorem readNumber_eq_ok_iff {x : Float} :
    FieldType.readNumber v = .ok x ↔ ∃ n, v = .num n ∧ x = n.toFloat := by
  cases v <;> simp [FieldType.readNumber, eq_comm]

/-- A double is read from a number. -/
theorem readField_number_iff {x : Float} :
    readField ⟨name, .number⟩ o = .ok x ↔ ∃ n, o = some (.num n) ∧ x = n.toFloat := by
  cases o with
  | none => simp [readField, FieldType.absent?]
  | some v =>
    have hread : readField ⟨name, .number⟩ (some v) = FieldType.readNumber v := rfl
    simp only [hread, readNumber_eq_ok_iff, Option.some.injEq]

/-- A pair is read from an array of two numbers, the latitude first. -/
theorem readPair_eq_ok_iff {p : LatLng Float} : FieldType.readPair v = .ok p ↔
    ∃ m n, v = .arr [.num m, .num n] ∧ p = ⟨m.toFloat, n.toFloat⟩ := by
  constructor
  · intro h
    match v, h with
    | .arr [a], h =>
      obtain ⟨_, -, h⟩ := exists_of_bind_eq_ok h
      cases h
    | .arr (a :: b :: more), h =>
      obtain ⟨lat, ha, h⟩ := exists_of_bind_eq_ok h
      obtain ⟨lng, hb, h⟩ := exists_of_bind_eq_ok h
      obtain ⟨m, rfl, rfl⟩ := readNumber_eq_ok_iff.1 ha
      obtain ⟨n, rfl, rfl⟩ := readNumber_eq_ok_iff.1 hb
      split at h
      · next hmore =>
        cases h
        exact ⟨m, n, by rw [List.isEmpty_iff.1 hmore], rfl⟩
      · cases h
  · rintro ⟨m, n, rfl, rfl⟩
    rfl

/-- A pair is read from an array of two numbers, the latitude first. -/
theorem readField_pair_iff {p : LatLng Float} : readField ⟨name, .pair⟩ o = .ok p ↔
    ∃ m n, o = some (.arr [.num m, .num n]) ∧ p = ⟨m.toFloat, n.toFloat⟩ := by
  cases o with
  | none => simp [readField, FieldType.absent?]
  | some v =>
    have hread : readField ⟨name, .pair⟩ (some v) = FieldType.readPair v := rfl
    simp only [hread, readPair_eq_ok_iff, Option.some.injEq]

/-- A value that may be absent is read as it is. -/
theorem readField_anyIfPresent_iff {x : Option Json} :
    readField ⟨name, .anyIfPresent⟩ o = .ok x ↔ x = o := by
  cases o <;> simp [readField, FieldType.read, FieldType.absent?, eq_comm]

/-- An absent value that stands for null is read as null, and any other as it is. -/
theorem readField_anyOrNull_iff {x : Json} :
    readField ⟨name, .anyOrNull⟩ o = .ok x ↔ x = o.getD .null := by
  cases o <;> simp [readField, FieldType.read, FieldType.absent?, eq_comm]

/-- A value is read as it is, but null as nothing. -/
theorem readField_anyOptional_iff {x : Option Json} :
    readField ⟨name, .anyOptional⟩ o = .ok x ↔ x = present? o := by
  cases o with
  | none => simp [readField, FieldType.absent?, present?, eq_comm]
  | some v => cases v <;> simp [readField, FieldType.read, present?, eq_comm]

/-- A text is read from a text, and nothing from null. -/
theorem readField_textOptional_iff {x : Option String} :
    readField ⟨name, .textOptional⟩ o = .ok x ↔ present? o = x.map .str := by
  cases o with
  | none => cases x <;> simp [readField, FieldType.absent?, present?]
  | some v =>
    cases v <;> cases x <;>
      simp [readField, FieldType.read, FieldType.readText, present?, Except.map]

end

/-! ## Objects -/

/-- Reading the members by their names succeeds exactly if each field reads the member of its
name. -/
theorem readMembers_eq_ok_iff {values : FieldValues fields} :
    readMembers members fields = .ok values ↔
      Reads fields (fields.map fun f => Keyed.find? f.name members) values := by
  induction fields with
  | nil => exact ⟨fun _ => trivial, fun _ => rfl⟩
  | cons f rest ih =>
    rw [readMembers, pair_eq_ok_iff, ih]
    rfl

/-- The members of a record that is read from an object are read one by one. -/
theorem readMembers_of_read {values : FieldValues record.fields}
    (h : record.read (.obj members) = .ok values) :
    readMembers members record.fields = .ok values := by
  rw [read] at h
  split at h
  · cases h
  · exact h

/-- What each field reads is of the right type. -/
theorem Reads.readField {f : Field} {values : FieldValues fields}
    (h : Reads fields (fields.map fun f => Keyed.find? f.name members) values) (hf : f ∈ fields) :
    ∃ value, Record.readField f (Keyed.find? f.name members) = .ok value := by
  induction fields with
  | nil => cases hf
  | cons g rest ih =>
    rcases List.mem_cons.1 hf with rfl | hrest
    · exact ⟨_, h.1⟩
    · exact ih h.2 hrest

/-- Where the keys are distinct and each field reads the member of its name, no member is at
fault. -/
theorem memberFault?_eq_none {values : FieldValues fields}
    (h : Reads fields (fields.map fun f => Keyed.find? f.name members) values)
    (hd : (members.map Prod.fst).Nodup) (hv : (key, v) ∈ members) :
    memberFault? fields key v = none := by
  unfold memberFault?
  split
  · rfl
  · next f hf =>
    -- With distinct keys the member in question is the one that its field has read.
    have hnamed := List.find?_some hf
    have hname : f.name = key := eq_of_beq hnamed
    have hfound : Keyed.find? f.name members = some v := hname ▸ Keyed.find?_eq_some_of_mem hd hv
    obtain ⟨value, hvalue⟩ := h.readField (List.mem_of_find?_eq_some hf)
    rw [hfound] at hvalue
    have hread : f.type.read v = .ok value := hvalue
    rw [hread]

/-- An object with distinct keys is a record exactly if each field reads the member of its name. -/
theorem read_obj_eq_ok_iff {values : FieldValues record.fields}
    (hd : (members.map Prod.fst).Nodup) :
    record.read (.obj members) = .ok values ↔
      Reads record.fields (record.fields.map fun f => Keyed.find? f.name members) values := by
  refine ⟨fun h => readMembers_eq_ok_iff.1 (readMembers_of_read h), fun h => ?_⟩
  rw [read]
  split
  · next fault hfault =>
    obtain ⟨e, he, hat⟩ := List.exists_of_findSome?_eq_some hfault
    cases (memberFault?_eq_none h hd he).symm.trans hat
  · exact readMembers_eq_ok_iff.2 h

/-! ## Arrays -/

/-- Reading elements succeeds exactly if there are no more of them than fields, and each field reads
the element at its place, or does without one. -/
theorem readElements_eq_ok_iff {values : FieldValues fields} (count : Nat) (items : List Json) :
    readElements record fields count items = .ok values ↔ items.length ≤ fields.length ∧
      Reads fields (items.map some ++ List.replicate (fields.length - items.length) none)
        values := by
  induction fields generalizing count items with
  | nil =>
    cases items with
    | nil => exact ⟨fun _ => ⟨Nat.le_refl _, trivial⟩, fun _ => rfl⟩
    | cons v more => simp [readElements]
  | cons f rest ih =>
    cases items with
    | nil =>
      have hread : readElements record (f :: rest) count [] = .ok values ↔
          Record.readField f none = .ok values.1 ∧
            readElements record rest count [] = .ok values.2 := by
        rw [readElements, Record.readField]
        cases f.type.absent? with
        | none => simp
        | some v => exact @pair_eq_ok_iff _ _ _ (.ok v) _ _
      rw [hread, ih]
      simp [Reads, List.replicate_succ]
    | cons v more =>
      rw [readElements, pair_eq_ok_iff, ih]
      simp [Reads, Record.readField, and_left_comm]

/-! ## Records -/

/-- A record is read from what a value gives to the fields. -/
theorem exists_given_of_read {values : FieldValues record.fields} (h : record.read v = .ok values) :
    ∃ given, given? record.fields v = some given ∧ Reads record.fields given values := by
  cases v with
  | null | bool | num | str => cases h
  | obj members => exact ⟨_, rfl, readMembers_eq_ok_iff.1 (readMembers_of_read h)⟩
  | arr items =>
    obtain ⟨hlen, hreads⟩ := (readElements_eq_ok_iff 0 items).1 h
    exact ⟨_, if_pos hlen, hreads⟩

/-- A value in order is a record exactly if it gives something to the fields, and each field reads
what it is given. -/
theorem read_eq_ok_iff {values : FieldValues record.fields} (hv : v.InOrder) :
    record.read v = .ok values ↔
      ∃ given, given? record.fields v = some given ∧ Reads record.fields given values := by
  refine ⟨exists_given_of_read, ?_⟩
  rintro ⟨given, hgiven, hreads⟩
  cases v with
  | null | bool | num | str => cases hgiven
  | obj members =>
    cases hgiven
    exact (read_obj_eq_ok_iff hv.1.nodup_keys).2 hreads
  | arr items =>
    rw [given?] at hgiven
    split at hgiven
    · next hlen =>
      cases hgiven
      exact (readElements_eq_ok_iff 0 items).2 ⟨hlen, hreads⟩
    · cases hgiven

end LiveMap.Json.Record
