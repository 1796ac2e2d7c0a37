/-!
# Computations that may fail

Readers, draws and ticks yield a result or a fault. A composed computation with a result is taken
apart here into its parts with theirs, and put together from them, so that no proof unfolds the
composition.
-/

namespace LiveMap

variable {ε α β : Type}

/-- A composed computation has a result only if its first part has one from which the second part
goes on to it. -/
theorem exists_of_bind_eq_ok {x : Except ε α} {f : α → Except ε β} {b : β}
    (h : x >>= f = .ok b) : ∃ a, x = .ok a ∧ f a = .ok b := by
  cases x with
  | error fault => cases h
  | ok a => exact ⟨a, rfl, h⟩

/-- A composed computation has a result if its parts have theirs. -/
theorem bind_eq_ok_of {x : Except ε α} {f : α → Except ε β} {a : α} {b : β} (hx : x = .ok a)
    (hf : f a = .ok b) : x >>= f = .ok b := by
  rw [hx]
  exact hf

/-- Two computations in a row yield a pair exactly if each yields its part. -/
theorem pair_eq_ok_iff {x : Except ε α} {y : Except ε β} {p : α × β} :
    (do let a ← x; let b ← y; return (a, b)) = .ok p ↔ x = .ok p.1 ∧ y = .ok p.2 := by
  constructor
  · intro h
    obtain ⟨a, ha, h⟩ := exists_of_bind_eq_ok h
    obtain ⟨b, hb, h⟩ := exists_of_bind_eq_ok h
    cases h
    exact ⟨ha, hb⟩
  · rintro ⟨ha, hb⟩
    exact bind_eq_ok_of ha (bind_eq_ok_of hb rfl)

/-- Two computations pass a state on, and each also yields something of its own. The state at the
end does not depend on how the two yields are combined. -/
theorem map_snd_of_passed_on {σ γ : Type} {x : Except ε (α × σ)} {y : σ → Except ε (β × σ)}
    {c : α → β → γ} :
    (do let (a, s) ← x; let (b, s) ← y s; return (c a b, s)).map Prod.snd =
      x.map Prod.snd >>= fun s => (y s).map Prod.snd := by
  cases x with
  | error fault => rfl
  | ok first =>
    show Except.map Prod.snd (y first.2 >>= fun second => _) = (y first.2).map Prod.snd
    cases y first.2 <;> rfl

/-- A composed computation fails if its first part does. -/
theorem bind_eq_error_of {x : Except ε α} {f : α → Except ε β} {fault : ε} (hx : x = .error fault) :
    x >>= f = .error fault := by
  rw [hx]
  rfl

/-- Where a part of a result is known there is a result. -/
theorem exists_of_map_eq_ok {x : Except ε α} {f : α → β} {b : β} (h : x.map f = .ok b) :
    ∃ a, x = .ok a ∧ f a = b := by
  cases x with
  | error fault => cases h
  | ok a => exact ⟨a, rfl, Except.ok.inj h⟩

/-- A computation whose result is known in part has a result. -/
theorem exists_of_map_toOption_eq_some {x : Except ε α} {f : α → β} {b : β}
    (h : x.toOption.map f = some b) : ∃ a, x = .ok a ∧ f a = b := by
  cases x with
  | error fault => cases h
  | ok a => exact ⟨a, rfl, Option.some.inj h⟩

/-- A composed computation whose second part never fails fails with the fault of its first part. -/
theorem fault_of_bind_eq_error {x : Except ε α} {f : α → β} {fault : ε}
    (h : (x >>= fun a => .ok (f a)) = .error fault) : x = .error fault := by
  cases x with
  | error _ =>
    cases h
    rfl
  | ok a => cases h

end LiveMap
