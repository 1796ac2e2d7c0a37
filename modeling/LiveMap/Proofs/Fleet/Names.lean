import LiveMap.Proofs.Fleet.Size
import LiveMap.Random.Tape
import Mathlib.Data.List.Nodup
import Std.Data.TreeSet.Lemmas

/-!
# No name is given twice

A fleet numbers its markers in the order in which they appear, and looks for a call sign whose name
with the number is still free. The number alone makes it free: every name in use carries a smaller
number (`Orderly`), and numbers can be read off names (`callName_injective`). So the search ends at
the first call sign (`Orderly.unusedName_eq`), and the others are never needed. The names in use
outlive the markers, so a name does not come back when its marker has left.

What happens to the names over any part of the life of a fleet is said by the markers that appear
in it (`Leads`). Such parts can be put together (`Leads.trans`), so one lemma for each kind of
change is enough for whole runs.

Main statement: `names_never_repeat`, for every tuning, all draws and every run. A run that ends
with a fault is covered up to there by shorter runs. The running number is a word of 32 bits. It
counts the markers that have appeared as long as there are fewer than `2^32` of them
(`Register.counter`), and so long the names are told apart by it. After that it would start over.
-/

namespace LiveMap

/-- A marker at the moment when it appears. -/
structure Arrival where
  /-- The id that was drawn for it. -/
  id : String
  /-- The name that was found for it. -/
  name : String

/-- The arrival of this marker. -/
def Marker.arrival (m : Marker Float) : Arrival := ⟨m.id, m.name⟩

/-- The arrival that an operation announces. Moves and removals announce none. -/
def MarkerOp.arrival? : MarkerOp → Option Arrival
  | .add id name _ => some ⟨id, name⟩
  | .update .. | .delete _ => none

namespace Generator

variable {ρ : Type} {g g' : Generator ρ}

/-! ## The names of numbers -/

/-- The name for the number `k`: `Alpha-` and `k` in decimal, with zeros in front up to two
digits. -/
def callName (k : Nat) : String := "Alpha-" ++ String.ofList ((Nat.toDigits 10 k).leftpad 2 '0')

/-- From ten on a number has two digits of its own, and below ten it has one. -/
theorem toList_twoDigits (n : Nat) :
    (twoDigits n).toList = (Nat.toDigits 10 n).leftpad 2 '0' := by
  have hlength := Nat.length_toDigits_le_iff (n := n) (b := 10) (k := 1) (by decide) (by decide)
  by_cases hn : n < 10
  · have hone : (Nat.toDigits 10 n).length = 1 := by rw [Nat.toDigits_of_lt_base hn]; rfl
    calc (twoDigits n).toList = '0' :: (toString n).toList := by
          rw [twoDigits, if_pos hn, String.toList_append]; rfl
      _ = '0' :: Nat.toDigits 10 n := by rw [Nat.toString_eq_repr, Nat.toList_repr]
      _ = (Nat.toDigits 10 n).leftpad 2 '0' := by rw [List.leftpad, hone]; rfl
  · have htwo : 2 - (Nat.toDigits 10 n).length = 0 := by omega
    calc (twoDigits n).toList = (toString n).toList := by rw [twoDigits, if_neg hn]
      _ = Nat.toDigits 10 n := by rw [Nat.toString_eq_repr, Nat.toList_repr]
      _ = (Nat.toDigits 10 n).leftpad 2 '0' := by rw [List.leftpad, htwo]; rfl

/-- The characters of the name for a number. -/
theorem toList_callName (k : Nat) :
    (callName k).toList = "Alpha-".toList ++ (Nat.toDigits 10 k).leftpad 2 '0' := by
  simp [callName]

/-- The first call sign gives a number its name. -/
theorem numbered_alpha (n : Nat) : numbered "Alpha" n = callName n := by
  apply String.toList_inj.1
  rw [toList_callName, numbered, String.toList_append, String.toList_append, toList_twoDigits]
  rfl

/-- A number can be read off its name. -/
theorem callName_injective : Function.Injective callName := by
  have hread : Function.LeftInverse (fun name => Nat.ofDigitChars 10 (name.toList.drop 6) 0)
      callName := by
    intro k
    have hdigits : (callName k).toList.drop 6 = (Nat.toDigits 10 k).leftpad 2 '0' := by
      rw [toList_callName]
      exact List.drop_left' rfl
    show Nat.ofDigitChars 10 ((callName k).toList.drop 6) 0 = k
    -- Zeros in front do not count.
    rw [hdigits, List.leftpad, Nat.ofDigitChars_append, Nat.ofDigitChars_replicate_zero,
      Nat.mul_zero, Nat.ofDigitChars_ten_toDigits]
  exact hread.injective

/-- The names that are tried for a number, of which `callName` is the first. -/
theorem exists_candidates (n : Nat) :
    ∃ others, callSigns.map (numbered · n) = callName n :: others := by
  rw [← numbered_alpha]
  exact ⟨_, rfl⟩

/-! ## The names in use -/

/-- A valid fleet whose names in use are those of the numbers up to the current one. -/
structure Orderly (g : Generator ρ) : Prop where
  /-- The fleet is valid. -/
  valid : g.Valid
  /-- A name is in use exactly if its number has been given. -/
  used : ∀ name, name ∈ g.usedNames ↔ ∃ k < g.counter.toNat, name = callName (k + 1)

/-- What is left of the source does not matter. -/
theorem Orderly.of_source (ho : g.Orderly) (source : ρ) :
    ({ g with source } : Generator ρ).Orderly := ⟨ho.valid.of_source source, ho.used⟩

/-- The number after one that is not the greatest is one more. -/
theorem toNat_add_one {n : UInt32} (hfits : n.toNat + 1 < UInt32.size) :
    (n + 1).toNat = n.toNat + 1 := by
  rw [UInt32.toNat_add]
  exact Nat.mod_eq_of_lt hfits

/-- The name for the next number is free. -/
theorem Orderly.contains_eq_false (ho : g.Orderly) :
    g.usedNames.contains (callName (g.counter.toNat + 1)) = false := by
  rw [← Bool.not_eq_true, Std.TreeSet.contains_iff_mem, ho.used]
  rintro ⟨k, hk, hname⟩
  have hnumber : g.counter.toNat + 1 = k + 1 := callName_injective hname
  omega

/-- The search for the next name ends at its first candidate. -/
theorem Orderly.findIdx?_candidates (ho : g.Orderly) :
    (callSigns.map (numbered · (g.counter.toNat + 1))).findIdx? (!g.usedNames.contains ·) =
      some 0 := by
  obtain ⟨others, hcandidates⟩ := exists_candidates (g.counter.toNat + 1)
  rw [hcandidates, List.findIdx?_cons, ho.contains_eq_false]
  rfl

/-- The next name is the one that the first call sign gives. -/
theorem Orderly.unusedName_eq (ho : g.Orderly) (hfits : g.counter.toNat + 1 < UInt32.size) :
    ({ g with counter := g.counter + 1 } : Generator ρ).unusedName =
      callName (g.counter.toNat + 1) := by
  obtain ⟨others, hcandidates⟩ := exists_candidates (g.counter.toNat + 1)
  unfold unusedName
  dsimp only
  rw [toNat_add_one hfits, hcandidates,
    List.find?_cons_of_pos (by rw [ho.contains_eq_false]; rfl)]
  rfl

/-! ## Parts of the life of a fleet -/

/-- What the life of a fleet from `g` to `g'` says about names, if the given markers appeared in
the course of it. -/
structure Leads (g : Generator ρ) (arrivals : List Arrival) (g' : Generator ρ) : Prop where
  /-- The names are still in order. -/
  orderly : g'.Orderly
  /-- Every arrival takes one number. -/
  counter : g'.counter.toNat = g.counter.toNat + arrivals.length
  /-- The arrivals are named for the numbers that follow, in order. -/
  names : arrivals.map Arrival.name =
    (List.range' (g.counter.toNat + 1) arrivals.length).map callName
  /-- Whoever is in the fleet then was in it before under the same name, or arrived. -/
  stays : ∀ id m', g'.find? id = some m' →
    (∃ m, g.find? id = some m ∧ m.name = m'.name) ∨ ⟨id, m'.name⟩ ∈ arrivals

/-- Where nothing happens nobody arrives. -/
theorem Orderly.leads_refl (ho : g.Orderly) : Leads g [] g where
  orderly := ho
  counter := rfl
  names := rfl
  stays _ m hm := Or.inl ⟨m, hm, rfl⟩

/-- One part of the life of a fleet, then another. -/
theorem Leads.trans {next : Generator ρ} {first second : List Arrival} (h₁ : Leads g first next)
    (h₂ : Leads next second g') : Leads g (first ++ second) g' where
  orderly := h₂.orderly
  counter := by
    have hnext := h₁.counter
    have hlast := h₂.counter
    rw [List.length_append]
    omega
  names := by
    -- The second part counts on from where the first one stopped.
    have hfollows : next.counter.toNat + 1 = g.counter.toNat + 1 + first.length := by
      have hnext := h₁.counter
      omega
    rw [List.map_append, h₁.names, h₂.names, hfollows, ← List.map_append, List.range'_append_1,
      List.length_append]
  stays id m' hm' := by
    obtain ⟨between, hbetween, hname⟩ | harrived := h₂.stays id m' hm'
    · obtain ⟨m, hm, hname'⟩ | harrived := h₁.stays id between hbetween
      · exact Or.inl ⟨m, hm, hname'.trans hname⟩
      · rw [hname] at harrived
        exact Or.inr (List.mem_append_left _ harrived)
    · exact Or.inr (List.mem_append_right _ harrived)

/-- The names that are given over a part of the life of a fleet are those of the numbers by which it
counts on. -/
theorem Leads.name_mem_iff {arrivals : List Arrival} {name : String} (h : Leads g arrivals g') :
    name ∈ arrivals.map Arrival.name ↔
      ∃ k, g.counter.toNat ≤ k ∧ k < g'.counter.toNat ∧ name = callName (k + 1) := by
  rw [h.names, h.counter, List.mem_map]
  constructor
  · rintro ⟨number, hnumber, rfl⟩
    obtain ⟨hle, hlt⟩ := List.mem_range'_1.1 hnumber
    exact ⟨number - 1, by omega, by omega, by rw [Nat.sub_add_cancel (by omega)]⟩
  · rintro ⟨k, hle, hlt, rfl⟩
    exact ⟨k + 1, List.mem_range'_1.2 (by omega), rfl⟩

/-- It does not matter with which source the part began. -/
theorem Leads.of_source {source : ρ} {arrivals : List Arrival}
    (h : Leads { g with source } arrivals g') : Leads g arrivals g' :=
  ⟨h.orderly, h.counter, h.names, h.stays⟩

/-- A change by which nobody arrives gives no name and leaves the names of all who stay. -/
theorem Orderly.leads_of_no_arrival (ho : g.Orderly) (hv : g'.Valid)
    (hused : g'.usedNames = g.usedNames) (hcounter : g'.counter = g.counter)
    (hstays : ∀ id m', g'.find? id = some m' → ∃ m, g.find? id = some m ∧ m.name = m'.name) :
    Leads g [] g' where
  orderly := by
    refine ⟨hv, fun name => ?_⟩
    rw [hused, hcounter]
    exact ho.used name
  counter := congrArg UInt32.toNat hcounter
  names := rfl
  stays id m' hm' := Or.inl (hstays id m' hm')

/-- Taking a marker out of the fleet frees no name. -/
theorem Orderly.leads_of_erase {id : String} (ho : g.Orderly)
    (hmarkers : g'.markers = Keyed.erase id g.markers) (hused : g'.usedNames = g.usedNames)
    (hcounter : g'.counter = g.counter) : Leads g [] g' := by
  refine ho.leads_of_no_arrival (ho.valid.of_erase hmarkers) hused hcounter fun j m' hm' => ?_
  exact ⟨m', ho.valid.find?_of_find?_erased hmarkers hm', rfl⟩

/-- Forgetting a marker frees no name. -/
theorem Orderly.forget (ho : g.Orderly) (id : String) : Leads g [] (g.forget id).2 :=
  ho.leads_of_erase (markers_forget g id) rfl rfl

variable [FleetDraws ρ]

/-- A new marker arrives under the name for the next number, which is in use from then on. -/
theorem Orderly.spawn {m : Marker Float} (ho : g.Orderly)
    (hfits : g.counter.toNat + 1 < UInt32.size) (h : g.spawn = .ok (m, g')) :
    Leads g [m.arrival] g' := by
  obtain ⟨hmoving, hname, source, rfl⟩ := spawn_frame h
  have hcounter := toNat_add_one hfits
  rw [ho.unusedName_eq hfits] at hname
  constructor
  case orderly =>
    -- The names in use are those of the numbers before, and now that of this one.
    refine ⟨ho.valid.of_insert hmoving rfl, fun name => ?_⟩
    show name ∈ g.usedNames.insert m.name ↔ ∃ k < (g.counter + 1).toNat, name = callName (k + 1)
    rw [Std.TreeSet.mem_insert, Std.compare_eq_iff_eq, hname, ho.used, hcounter]
    constructor
    · rintro (rfl | ⟨k, hk, hk'⟩)
      · exact ⟨g.counter.toNat, Nat.lt_succ_self _, rfl⟩
      · exact ⟨k, Nat.lt_succ_of_lt hk, hk'⟩
    · rintro ⟨k, hk, hk'⟩
      obtain hlt | heq : k < g.counter.toNat ∨ k = g.counter.toNat := by omega
      · exact Or.inr ⟨k, hlt, hk'⟩
      · exact Or.inl (by rw [hk', heq])
  case counter => exact hcounter
  case names =>
    show [m.name] = [callName (g.counter.toNat + 1)]
    rw [hname]
  case stays =>
    intro id m' hm'
    by_cases hid : id = m.id
    · rw [hid, find?_of_insert rfl] at hm'
      cases hm'
      exact Or.inr (by rw [hid]; exact List.mem_singleton_self _)
    · rw [find?_of_insert_of_ne rfl hid] at hm'
      exact Or.inl ⟨m', hm', rfl⟩

/-- A move gives no name. -/
theorem Orderly.moveRandom {op : MarkerOp} (ho : g.Orderly)
    (h : g.moveRandom = .ok (some op, g')) : op.arrival? = none ∧ Leads g [] g' := by
  obtain ⟨hnone, -⟩ | ⟨m, hm, moved, source, hop, hid, hname, hmoving, rfl⟩ := moveRandom_cases h
  · cases hnone
  cases hop
  refine ⟨rfl, ho.leads_of_no_arrival (ho.valid.of_insert hmoving rfl) rfl rfl ?_⟩
  intro id m' hm'
  by_cases hsame : id = moved.id
  · -- The marker that moved was there before, under its id and its name.
    rw [hsame, find?_of_insert rfl] at hm'
    cases hm'
    exact ⟨m, by rw [hsame, hid, ho.valid.find?_of_mem_snapshot hm], hname.symm⟩
  · rw [find?_of_insert_of_ne rfl hsame] at hm'
    exact ⟨m', hm', rfl⟩

/-- A removal gives no name. -/
theorem Orderly.deleteRandom {op : MarkerOp} (ho : g.Orderly)
    (h : g.deleteRandom = .ok (some op, g')) : op.arrival? = none ∧ Leads g [] g' := by
  obtain ⟨hnone, -⟩ | ⟨m, -, source, hop, rfl⟩ := deleteRandom_cases h
  · cases hnone
  cases hop
  exact ⟨rfl, ho.leads_of_erase rfl rfl rfl⟩

/-- A pick gives a name exactly if it announces an arrival. -/
theorem Orderly.nextOp {op : MarkerOp} (ho : g.Orderly)
    (hfits : g.counter.toNat + op.arrival?.toList.length < UInt32.size)
    (h : g.nextOp = .ok (op, g')) : Leads g op.arrival?.toList g' := by
  obtain ⟨source, hadd | hmove | hremove⟩ := nextOp_calls h
  · obtain ⟨⟨m, spawned⟩, hspawn, hadd⟩ := exists_of_bind_eq_ok hadd
    cases hadd
    exact ((ho.of_source source).spawn hfits hspawn).of_source
  · obtain ⟨hnone, hleads⟩ := (ho.of_source source).moveRandom hmove
    rw [hnone]
    exact hleads.of_source
  · obtain ⟨hnone, hleads⟩ := (ho.of_source source).deleteRandom hremove
    rw [hnone]
    exact hleads.of_source

/-! ## Runs with their arrivals -/

/-- Adds `n` new markers, as `spawnMany` does, and lists them. -/
def enrol : Nat → Generator ρ → Except Fault (List Arrival × Generator ρ)
  | 0, g => .ok ([], g)
  | n + 1, g => do
    let (m, g) ← g.spawn
    let (arrivals, g) ← enrol n g
    return (m.arrival :: arrivals, g)

/-- The fleet after one turn, with the marker that appeared in it. -/
def follow (turn : Turn) (g : Generator ρ) : Except Fault (List Arrival × Generator ρ) :=
  match turn with
  | .pick => do
    let (op, g) ← g.nextOp
    return (op.arrival?.toList, g)
  | .forget id => .ok ([], (g.forget id).2)

/-- The fleet after several turns, with the markers that appeared in them. -/
def chronicle : List Turn → Generator ρ → Except Fault (List Arrival × Generator ρ)
  | [], g => .ok ([], g)
  | turn :: turns, g => do
    let (first, g) ← follow turn g
    let (rest, g) ← chronicle turns g
    return (first ++ rest, g)

/-- The life of a fleet that is made with `initial` markers and then takes its turns, with all the
markers that ever appeared. -/
def history (initial : Nat) (tuning : MotionTuning Float) (source : ρ) (turns : List Turn) :
    Except Fault (List Arrival × Generator ρ) := do
  let (founders, g) ← enrol initial { markers := [], usedNames := ∅, counter := 0, tuning, source }
  let (others, g) ← chronicle turns g
  return (founders ++ others, g)

/-- Without their list, the new markers are those of `spawnMany`. -/
theorem map_snd_enrol (n : Nat) (g : Generator ρ) : (enrol n g).map Prod.snd = spawnMany n g := by
  induction n generalizing g with
  | zero => rfl
  | succ n ih =>
    calc (enrol (n + 1) g).map Prod.snd
        = g.spawn.map Prod.snd >>= fun g => (enrol n g).map Prod.snd := by
          rw [enrol]
          exact map_snd_of_passed_on (c := fun m arrivals => Marker.arrival m :: arrivals)
      _ = g.spawn.map Prod.snd >>= spawnMany n := bind_congr ih
      _ = spawnMany (n + 1) g := by
        rw [spawnMany]
        cases g.spawn <;> rfl

/-- Without its arrival, a turn is what `act` makes of the fleet. -/
theorem map_snd_follow (turn : Turn) (g : Generator ρ) :
    (follow turn g).map Prod.snd = act turn g := by
  cases turn with
  | pick =>
    unfold follow act
    cases g.nextOp <;> rfl
  | forget id => rfl

/-- Without their arrivals, several turns are what `run` makes of the fleet. -/
theorem map_snd_chronicle (turns : List Turn) (g : Generator ρ) :
    (chronicle turns g).map Prod.snd = run turns g := by
  induction turns generalizing g with
  | nil => rfl
  | cons turn turns ih =>
    calc (chronicle (turn :: turns) g).map Prod.snd
        = (follow turn g).map Prod.snd >>= fun g => (chronicle turns g).map Prod.snd :=
          map_snd_of_passed_on
      _ = act turn g >>= run turns := by rw [map_snd_follow, bind_congr ih]

/-- Without its arrivals, the life of a fleet is its creation and its run. -/
theorem map_snd_history (initial : Nat) (tuning : MotionTuning Float) (source : ρ)
    (turns : List Turn) : (history initial tuning source turns).map Prod.snd =
      create initial tuning source >>= run turns := by
  calc (history initial tuning source turns).map Prod.snd
      = (enrol initial { markers := [], usedNames := ∅, counter := 0, tuning, source }).map Prod.snd
          >>= fun g => (chronicle turns g).map Prod.snd := map_snd_of_passed_on
    _ = create initial tuning source >>= run turns := by
      rw [map_snd_enrol, bind_congr (map_snd_chronicle turns)]
      rfl

/-- New markers arrive one by one. -/
theorem Orderly.enrol {n : Nat} {arrivals : List Arrival} (ho : g.Orderly)
    (hfits : g.counter.toNat + arrivals.length < UInt32.size) (h : enrol n g = .ok (arrivals, g')) :
    Leads g arrivals g' := by
  induction n generalizing g arrivals with
  | zero =>
    cases h
    exact ho.leads_refl
  | succ n ih =>
    obtain ⟨⟨m, next⟩, hspawn, h⟩ := exists_of_bind_eq_ok h
    obtain ⟨⟨rest, last⟩, hrest, h⟩ := exists_of_bind_eq_ok h
    cases h
    rw [List.length_cons] at hfits
    have hfirst := ho.spawn (by omega) hspawn
    have hnext : next.counter.toNat = g.counter.toNat + 1 := hfirst.counter
    exact hfirst.trans (ih hfirst.orderly (by omega) hrest)

/-- What one turn does to the names. -/
theorem Orderly.follow {turn : Turn} {arrivals : List Arrival} (ho : g.Orderly)
    (hfits : g.counter.toNat + arrivals.length < UInt32.size)
    (h : follow turn g = .ok (arrivals, g')) : Leads g arrivals g' := by
  cases turn with
  | pick =>
    obtain ⟨⟨op, next⟩, hnext, h⟩ := exists_of_bind_eq_ok h
    cases h
    exact ho.nextOp hfits hnext
  | forget id =>
    cases h
    exact ho.forget id

/-- What several turns do to the names. -/
theorem Orderly.chronicle {turns : List Turn} {arrivals : List Arrival} (ho : g.Orderly)
    (hfits : g.counter.toNat + arrivals.length < UInt32.size)
    (h : chronicle turns g = .ok (arrivals, g')) : Leads g arrivals g' := by
  induction turns generalizing g arrivals with
  | nil =>
    cases h
    exact ho.leads_refl
  | cons turn turns ih =>
    obtain ⟨⟨first, next⟩, hfollow, h⟩ := exists_of_bind_eq_ok h
    obtain ⟨⟨rest, last⟩, hrest, h⟩ := exists_of_bind_eq_ok h
    cases h
    rw [List.length_append] at hfits
    have hfirst := ho.follow (by omega) hfollow
    have hnext := hfirst.counter
    exact hfirst.trans (ih hfirst.orderly (by omega) hrest)

omit [FleetDraws ρ] in
/-- A fleet before its first marker has given no name. -/
theorem orderly_of_nothing {tuning : MotionTuning Float} {source : ρ} :
    ({ markers := [], usedNames := ∅, counter := 0, tuning, source } : Generator ρ).Orderly where
  valid := valid_of_nil rfl
  used name := by
    refine iff_of_false Std.TreeSet.not_mem_emptyc ?_
    rintro ⟨k, hk, -⟩
    exact Nat.not_lt_zero k hk

/-- The life of a fleet. -/
theorem leads_of_history {initial : Nat} {tuning : MotionTuning Float} {source : ρ}
    {turns : List Turn} {arrivals : List Arrival} (hfits : arrivals.length < UInt32.size)
    (h : history initial tuning source turns = .ok (arrivals, g)) :
    Leads { markers := [], usedNames := ∅, counter := 0, tuning, source } arrivals g := by
  obtain ⟨⟨founders, founded⟩, hfounders, h⟩ := exists_of_bind_eq_ok h
  obtain ⟨⟨others, last⟩, hothers, h⟩ := exists_of_bind_eq_ok h
  cases h
  rw [List.length_append] at hfits
  have hzero : (0 : UInt32).toNat = 0 := rfl
  have hmade := orderly_of_nothing.enrol (by dsimp only; omega) hfounders
  have hcounter := hmade.counter
  exact hmade.trans (hmade.orderly.chronicle (by dsimp only at hcounter; omega) hothers)

/-! ## The register -/

/-- The names that are borne in the fleet. -/
def liveNames (g : Generator ρ) : List String := g.snapshot.map Marker.name

/-- What holds of the names in a fleet at any point of its life, if the given markers are all that
ever appeared, fewer than `2^32` of them. -/
structure Register (arrivals : List Arrival) (g : Generator ρ) : Prop where
  /-- The running number is the number of arrivals. -/
  counter : g.counter.toNat = arrivals.length
  /-- The first arrival is `Alpha-01`, the second `Alpha-02`, and so on. -/
  named : ∀ k (hk : k < arrivals.length), arrivals[k].name = callName (k + 1)
  /-- No two arrivals have the same name. -/
  distinct : (arrivals.map Arrival.name).Nodup
  /-- The names in use are those of all the arrivals, wherever they are now. -/
  used : ∀ name, name ∈ g.usedNames ↔ name ∈ arrivals.map Arrival.name
  /-- Whoever is in the fleet is one of the arrivals, under the same id and the same name. -/
  live : ∀ m ∈ g.snapshot, m.arrival ∈ arrivals
  /-- No two markers in the fleet have the same name. -/
  apart : ∀ m₁ ∈ g.snapshot, ∀ m₂ ∈ g.snapshot, m₁.name = m₂.name → m₁ = m₂
  /-- An arrival that has left the fleet leaves no namesake behind, and none will come, as long as
  there are fewer than `2^32` arrivals. -/
  gone : ∀ a ∈ arrivals, a.name ∉ g.liveNames → ∀ turns more g',
    chronicle turns g = .ok (more, g') → arrivals.length + more.length < UInt32.size →
      a.name ∉ g'.liveNames
  /-- The search for the next name ends at its first candidate. -/
  first : arrivals.length + 1 < UInt32.size →
    (callSigns.map (numbered · (g.counter + 1).toNat)).findIdx? (!g.usedNames.contains ·) = some 0
  /-- The next name is the one that the first call sign gives. -/
  next : arrivals.length + 1 < UInt32.size →
    ({ g with counter := g.counter + 1 } : Generator ρ).unusedName =
      callName (arrivals.length + 1)

/-- A new fleet has a register of its arrivals, and keeps it through its life. -/
theorem Leads.register {tuning : MotionTuning Float} {source : ρ} {arrivals : List Arrival}
    (h : Leads { markers := [], usedNames := ∅, counter := 0, tuning, source } arrivals g) :
    Register arrivals g := by
  have hv : g.Valid := h.orderly.valid
  have hdistinct : (arrivals.map Arrival.name).Nodup := by
    rw [h.names]
    exact (List.nodup_range' 1).map callName_injective
  have hlive : ∀ m ∈ g.snapshot, m.arrival ∈ arrivals := by
    intro m hm
    obtain ⟨before, hbefore, -⟩ | harrived := h.stays m.id m (hv.find?_of_mem_snapshot hm)
    · cases hbefore
    · exact harrived
  have hcounter : g.counter.toNat = arrivals.length := by
    rw [h.counter]
    exact Nat.zero_add _
  constructor
  case counter => exact hcounter
  case named =>
    intro k hk
    have hname : (arrivals.map Arrival.name)[k]? = some (callName (0 + 1 + k)) := by
      rw [h.names]
      simp [hk]
    rw [List.getElem?_map, List.getElem?_eq_getElem hk] at hname
    rw [Option.some.inj hname, Nat.zero_add, Nat.add_comm]
  case distinct => exact hdistinct
  case used =>
    intro name
    rw [h.orderly.used, h.name_mem_iff]
    simp
  case live => exact hlive
  case apart =>
    -- Namesakes are one arrival, so they have one id, under which there is one marker.
    intro m₁ h₁ m₂ h₂ hname
    have harrival : m₁.arrival = m₂.arrival :=
      List.inj_on_of_nodup_map hdistinct (hlive m₁ h₁) (hlive m₂ h₂) hname
    have hid : m₁.id = m₂.id := congrArg Arrival.id harrival
    have hfound := hv.find?_of_mem_snapshot h₁
    rw [hid, hv.find?_of_mem_snapshot h₂] at hfound
    exact (Option.some.inj hfound).symm
  case gone =>
    intro a ha haway turns more last hmore hfits hback
    have hlater : Leads g more last := h.orderly.chronicle (hcounter ▸ hfits) hmore
    obtain ⟨m', hm', hname⟩ := List.mem_map.1 hback
    obtain ⟨m, hm, hsame⟩ | harrived :=
      hlater.stays m'.id m' (hlater.orderly.valid.find?_of_mem_snapshot hm')
    · -- The namesake was in the fleet already.
      exact haway (List.mem_map.2 ⟨m, mem_snapshot_of_find? hm, hsame.trans hname⟩)
    · -- The namesake came later, and so with a greater number.
      obtain ⟨k, -, hk, hk'⟩ := h.name_mem_iff.1 (List.mem_map_of_mem ha)
      obtain ⟨l, hl, -, hl'⟩ := hlater.name_mem_iff.1 (List.mem_map_of_mem harrived)
      have hnumber : k + 1 = l + 1 := by
        apply callName_injective
        calc callName (k + 1) = a.name := hk'.symm
          _ = m'.name := hname.symm
          _ = callName (l + 1) := hl'
      omega
  case first =>
    intro hfits
    rw [toNat_add_one (hcounter ▸ hfits)]
    exact h.orderly.findIdx?_candidates
  case next =>
    intro hfits
    rw [h.orderly.unusedName_eq (hcounter ▸ hfits), hcounter]

/-- For every initial size, every tuning, all draws and all turns: if the fleet goes through its
turns, all markers that ever appeared can be listed, and if there are fewer than `2^32` of them,
their names are as the register says. And with a legal tuning and lawful draws the fleet does go
through its turns. -/
theorem names_never_repeat (initial : Nat) (tuning : MotionTuning Float) (source : ρ)
    (turns : List Turn) :
    (∀ g, create initial tuning source >>= run turns = .ok g →
      ∃ arrivals, history initial tuning source turns = .ok (arrivals, g) ∧
        (arrivals.length < UInt32.size → Register arrivals g)) ∧
    (LawfulDraws ρ → tuning.Legal → ∃ g, create initial tuning source >>= run turns = .ok g) := by
  constructor
  · intro g h
    rw [← map_snd_history] at h
    obtain ⟨⟨arrivals, last⟩, hhistory, rfl⟩ := exists_of_map_eq_ok h
    exact ⟨arrivals, hhistory, fun hfits => (leads_of_history hfits hhistory).register⟩
  · intro _ ht
    obtain ⟨g₀, hmade, hsound⟩ := exists_create ht initial source
    obtain ⟨g, hrun, -⟩ := hsound.exists_run turns
    exact ⟨g, bind_eq_ok_of hmade hrun⟩

/-- Three markers appear. The first is removed by a pick, the second is forgotten, and the third is
replaced by a marker that draws the id of the third once more. The newcomer is the only one left,
and takes none of the three names. -/
theorem names_never_repeat_after_replacement : MotionTuning.standard.Legal ∧
    ∃ arrivals g, history 3 .standard (Tape.ofList [0xC4000011, 0xE4000022, 0x33])
        [.pick, .forget "33112233", .pick] = .ok (arrivals, g) ∧
      arrivals.map Arrival.id = ["11223311", "33112233", "22331122", "22331122"] ∧
      arrivals.map Arrival.name = ["Alpha-01", "Alpha-02", "Alpha-03", "Alpha-04"] ∧
      g.liveNames = ["Alpha-04"] ∧ Register arrivals g := by
  have hfacts : ((history 3 .standard (Tape.ofList [0xC4000011, 0xE4000022, 0x33])
      [.pick, .forget "33112233", .pick]).toOption.map fun life =>
        (life.1.map Arrival.id, life.1.map Arrival.name, life.2.liveNames)) =
      some (["11223311", "33112233", "22331122", "22331122"],
        ["Alpha-01", "Alpha-02", "Alpha-03", "Alpha-04"], ["Alpha-04"]) := by decide +kernel
  have hnames := names_never_repeat 3 .standard (Tape.ofList [0xC4000011, 0xE4000022, 0x33])
    [.pick, .forget "33112233", .pick]
  obtain ⟨g, hrun⟩ := hnames.2 inferInstance MotionTuning.legal_standard
  obtain ⟨arrivals, hhistory, hregister⟩ := hnames.1 g hrun
  rw [hhistory] at hfacts
  injection hfacts with hfacts
  injection hfacts with hids hrest
  injection hrest with hgiven hlive
  have hfour : arrivals.length = 4 := by
    rw [← List.length_map (f := Arrival.id), hids]
    rfl
  exact ⟨MotionTuning.legal_standard, arrivals, g, hhistory, hids, hgiven, hlive,
    hregister (by rw [hfour]; decide)⟩

end Generator

end LiveMap
