/-!
# Association lists

A table is a list of pairs whose keys are distinct. Two ways of writing to it are offered: `put`
keeps the order in which keys arrived, and `insert` keeps the keys in ascending order. Reading and
erasing are the same for both.
-/

namespace LiveMap.Keyed

universe u v

variable {κ : Type u} {α : Type v}

/-- The value under a key. -/
def find? [DecidableEq κ] (k : κ) : List (κ × α) → Option α
  | [] => none
  | (k', a) :: rest => if k' = k then some a else find? k rest

/-- Whether the table has a value under the key. -/
def contains [DecidableEq κ] (k : κ) (table : List (κ × α)) : Bool :=
  (find? k table).isSome

/-- Writes a value under a key. A present key keeps its place and a new one goes to the end. -/
def put [DecidableEq κ] (k : κ) (a : α) : List (κ × α) → List (κ × α)
  | [] => [(k, a)]
  | (k', b) :: rest => if k' = k then (k, a) :: rest else (k', b) :: put k a rest

/-- Removes a key. -/
def erase [DecidableEq κ] (k : κ) : List (κ × α) → List (κ × α)
  | [] => []
  | (k', b) :: rest => if k' = k then rest else (k', b) :: erase k rest

/-- Writes a value under a key of a table whose keys ascend, keeping them so. -/
def insert (k : String) (a : α) : List (String × α) → List (String × α)
  | [] => [(k, a)]
  | (k', b) :: rest =>
    if k' = k then (k, a) :: rest
    else if k < k' then (k, a) :: (k', b) :: rest
    else (k', b) :: insert k a rest

variable [DecidableEq κ] {k j : κ} {a : α} {table : List (κ × α)}

/-- The written value is found. -/
@[simp] theorem find?_put_self : find? k (put k a table) = some a := by
  induction table with
  | nil => simp [put, find?]
  | cons e rest ih => grind [put, find?]

/-- Writing one key leaves the others alone. -/
theorem find?_put_of_ne (h : j ≠ k) : find? j (put k a table) = find? j table := by
  induction table with
  | nil => simp [put, find?, h.symm]
  | cons e rest ih => grind [put, find?]

/-- Erasing one key leaves the others alone. -/
theorem find?_erase_of_ne (h : j ≠ k) : find? j (erase k table) = find? j table := by
  induction table with
  | nil => rfl
  | cons e rest ih => grind [erase, find?]

/-- A key that is not listed has no value. -/
theorem find?_eq_none_of_not_mem (h : k ∉ table.map Prod.fst) : find? k table = none := by
  induction table with
  | nil => rfl
  | cons e rest ih => grind [find?]

/-- An erased key is gone. -/
theorem find?_erase_self (h : (table.map Prod.fst).Nodup) : find? k (erase k table) = none := by
  induction table with
  | nil => rfl
  | cons e rest ih =>
    simp only [List.map_cons, List.nodup_cons] at h
    by_cases hk : e.1 = k
    · simp [erase, hk]
      exact find?_eq_none_of_not_mem (hk ▸ h.1)
    · simp [erase, hk, find?, ih h.2]

/-- A key has a value exactly if it is listed. -/
theorem find?_ne_none_iff : find? k table ≠ none ↔ k ∈ table.map Prod.fst := by
  induction table with
  | nil => simp [find?]
  | cons e rest ih =>
    rw [List.map_cons, List.mem_cons]
    by_cases hk : e.1 = k
    · simp [find?, hk]
    · rw [find?, if_neg hk, ih]
      exact ⟨Or.inr, fun h => h.resolve_left (Ne.symm hk)⟩

/-- A found value stands in the table. -/
theorem mem_of_find?_eq_some (h : find? k table = some a) : (k, a) ∈ table := by
  induction table with
  | nil => cases h
  | cons e rest ih =>
    obtain ⟨k', b⟩ := e
    by_cases hk : k' = k
    · rw [find?, if_pos hk] at h
      cases h
      rw [hk]
      exact List.mem_cons_self
    · rw [find?, if_neg hk] at h
      exact List.mem_cons_of_mem _ (ih h)

/-- Where the keys are distinct, a value that stands in the table is found. -/
theorem find?_eq_some_of_mem (hd : (table.map Prod.fst).Nodup) (h : (k, a) ∈ table) :
    find? k table = some a := by
  induction table with
  | nil => cases h
  | cons e rest ih =>
    obtain ⟨k', b⟩ := e
    rw [List.map_cons, List.nodup_cons] at hd
    rcases List.mem_cons.1 h with he | hr
    · cases he
      rw [find?, if_pos rfl]
    · have hk : k' ≠ k := by
        rintro rfl
        exact hd.1 (List.mem_map.2 ⟨_, hr, rfl⟩)
      rw [find?, if_neg hk]
      exact ih hd.2 hr

/-- Where the keys are distinct, the order of the entries does not matter. -/
theorem find?_eq_of_perm {table' : List (κ × α)} (hp : table.Perm table')
    (hd : (table.map Prod.fst).Nodup) : find? k table = find? k table' := by
  have hd' : (table'.map Prod.fst).Nodup := (hp.map Prod.fst).nodup_iff.1 hd
  refine Option.ext fun a => ⟨fun h => ?_, fun h => ?_⟩
  · exact find?_eq_some_of_mem hd' (hp.mem_iff.1 (mem_of_find?_eq_some h))
  · exact find?_eq_some_of_mem hd (hp.mem_iff.2 (mem_of_find?_eq_some h))

/-- A table with one more entry at its end, under a new key or an old one. -/
theorem find?_append_singleton (b : α) :
    find? k (table ++ [(j, b)]) = (find? k table).or (if j = k then some b else none) := by
  induction table with
  | nil => simp [find?]
  | cons e rest ih =>
    by_cases hk : e.1 = k
    · simp [find?, hk]
    · simp only [List.cons_append, find?, if_neg hk, ih]

/-- Rewriting the values of a table rewrites what is found. -/
theorem find?_map (f : κ → α → α) :
    find? k (table.map fun e => (e.1, f e.1 e.2)) = (find? k table).map (f k) := by
  induction table with
  | nil => rfl
  | cons e rest ih =>
    by_cases hk : e.1 = k
    · simp [find?, hk]
    · simp only [List.map_cons, find?, if_neg hk, ih]

/-- Writing under a present key keeps the keys, and a new key comes last. -/
theorem keys_put : (put k a table).map Prod.fst =
    if k ∈ table.map Prod.fst then table.map Prod.fst else table.map Prod.fst ++ [k] := by
  induction table with
  | nil => rfl
  | cons e rest ih => grind [put]

/-- Writing keeps the keys distinct. -/
theorem nodup_keys_put (hd : (table.map Prod.fst).Nodup) :
    ((put k a table).map Prod.fst).Nodup := by
  rw [keys_put]
  split
  · exact hd
  · next hk =>
    rw [List.nodup_append]
    refine ⟨hd, List.pairwise_singleton _ _, ?_⟩
    intro i hi j hj he
    rw [List.mem_singleton] at hj
    exact hk (hj ▸ he ▸ hi)

/-- Erasing takes out entries and adds none. -/
theorem erase_sublist : (erase k table).Sublist table := by
  induction table with
  | nil => exact List.Sublist.slnil
  | cons e rest ih =>
    rw [erase]
    split
    · exact List.sublist_cons_self _ _
    · exact ih.cons_cons _

/-- Erasing a present key makes the table shorter by one. -/
theorem length_erase (h : find? k table ≠ none) : (erase k table).length + 1 = table.length := by
  induction table with
  | nil => exact absurd rfl h
  | cons e rest ih =>
    obtain ⟨k', b⟩ := e
    by_cases hk : k' = k
    · rw [erase, if_pos hk, List.length_cons]
    · rw [find?, if_neg hk] at h
      rw [erase, if_neg hk, List.length_cons, List.length_cons, ih h]

/-- Erasing keeps the keys distinct. -/
theorem nodup_keys_erase (hd : (table.map Prod.fst).Nodup) :
    ((erase k table).map Prod.fst).Nodup :=
  hd.sublist (erase_sublist.map _)

/-! ## Ascending tables -/

/-- Whether the keys of a table ascend. -/
def Ascending (table : List (String × α)) : Prop := (table.map Prod.fst).Pairwise (· < ·)

section

variable {k j : String} {table : List (String × α)}

/-- Ascending keys are distinct. -/
theorem Ascending.nodup_keys (h : Ascending table) : (table.map Prod.fst).Nodup :=
  h.imp fun hlt => String.ne_of_lt hlt

/-- The inserted value is found. -/
@[simp] theorem find?_insert_self : find? k (insert k a table) = some a := by
  induction table with
  | nil => simp [insert, find?]
  | cons e rest ih => grind [insert, find?]

/-- Inserting one key leaves the others alone. -/
theorem find?_insert_of_ne (h : j ≠ k) : find? j (insert k a table) = find? j table := by
  induction table with
  | nil => simp [insert, find?, h.symm]
  | cons e rest ih => grind [insert, find?]

/-- Inserting adds at most the one key. -/
theorem mem_keys_insert (h : j ∈ (insert k a table).map Prod.fst) :
    j = k ∨ j ∈ table.map Prod.fst := by
  by_cases hj : j = k
  · exact Or.inl hj
  · rw [← find?_ne_none_iff, find?_insert_of_ne hj, find?_ne_none_iff] at h
    exact Or.inr h

/-- Inserting keeps the keys in ascending order. -/
theorem Ascending.insert (h : Ascending table) : Ascending (Keyed.insert k a table) := by
  induction table with
  | nil => exact List.pairwise_singleton _ _
  | cons e rest ih =>
    obtain ⟨hfirst, hrest⟩ := List.pairwise_cons.1 h
    rw [Keyed.insert]
    split
    · next he =>
      -- The key is there already, and keeps its place.
      rw [← he]
      exact h
    split
    · next hlt =>
      refine List.pairwise_cons.2 ⟨fun j hj => ?_, h⟩
      rcases List.mem_cons.1 hj with rfl | hj
      · exact hlt
      · exact String.lt_trans hlt (hfirst j hj)
    · next hne hge =>
      refine List.pairwise_cons.2 ⟨fun j hj => ?_, ih hrest⟩
      rcases mem_keys_insert hj with rfl | hj
      · exact Decidable.byContradiction fun hnot =>
          hne (String.le_antisymm (String.not_lt.1 hge) (String.not_lt.1 hnot))
      · exact hfirst j hj

/-- A key below all others is not there yet. -/
theorem Ascending.find?_eq_none {e : String × α} (h : Ascending (e :: table)) (hlt : k < e.1) :
    find? k (e :: table) = none := by
  refine find?_eq_none_of_not_mem fun hmem => ?_
  rcases List.mem_cons.1 hmem with rfl | hrest
  · exact String.lt_irrefl _ hlt
  · exact String.lt_irrefl _ (String.lt_trans hlt ((List.pairwise_cons.1 h).1 k hrest))

/-- Inserting a new key makes an ascending table longer by one, and a present key does not. -/
theorem Ascending.length_insert (h : Ascending table) :
    (Keyed.insert k a table).length =
      if find? k table = none then table.length + 1 else table.length := by
  induction table with
  | nil => rfl
  | cons e rest ih =>
    have hrest := ih (List.pairwise_cons.1 h).2
    rw [Keyed.insert]
    split
    · next he =>
      have hfound : find? k (e :: rest) ≠ none := by
        rw [find?, if_pos he]
        exact Option.some_ne_none _
      rw [if_neg hfound, List.length_cons, List.length_cons]
    split
    · next hlt => rw [if_pos (h.find?_eq_none hlt), List.length_cons]
    · next hne _ =>
      rw [List.length_cons, hrest, find?, if_neg hne, List.length_cons]
      split <;> rfl

/-- Erasing keeps the keys in ascending order. -/
theorem Ascending.erase (h : Ascending table) : Ascending (Keyed.erase k table) :=
  h.sublist (erase_sublist.map _)

end

end LiveMap.Keyed
