import LiveMap.Proofs.Hub.Lane
import LiveMap.Proofs.Text.Trim
import LiveMap.Server
import Mathlib.Data.Nat.Digits.Defs

/-!
# What an environment sets

A variable gives a number if its value, but for blanks around it, is a plus sign or none and some
decimal digits, and if the number that they spell is not beyond the type of the setting (`Gives`). A
setting is then this number, adjusted to the range of the setting, and in every other case it is the
default (`IsSetBy`). Every integer setting is read this way, so all of them follow from one lemma
(`isSetBy_numberOr`).

Main statement: `settings_are_safe_and_exact`, for every environment.
-/

namespace LiveMap

namespace Settings

/-! ## Numerals -/

/-- The value of a decimal digit. -/
def digitValue (c : Char) : Nat := c.toNat - '0'.toNat

/-- Whether a text spells a number: a plus sign or none, and one or more decimal digits. -/
def Spells (text : String) (n : Nat) : Prop :=
  ∃ sign ds : List Char, text.toList = sign ++ ds ∧ (sign = [] ∨ sign = ['+']) ∧ ds ≠ [] ∧
    (∀ d ∈ ds, d.isDigit = true) ∧ n = Nat.ofDigits 10 (ds.reverse.map digitValue)

/-- The digits of a numeral are taken from the left, each below all that came before it. -/
theorem decimalValue_eq (ds : List Char) :
    decimalValue ds = Nat.ofDigits 10 (ds.reverse.map digitValue) := by
  rw [Nat.ofDigits_eq_foldr, List.map_reverse, List.foldr_reverse, List.foldl_map]
  unfold decimalValue
  congr 1
  funext n c
  show n * 10 + digitValue c = digitValue c + 10 * n
  omega

/-- What follows the sign of a numeral. -/
def afterSign : List Char → List Char
  | '+' :: ds => ds
  | ds => ds

/-- What follows the sign stands behind a plus sign or nothing. -/
theorem exists_sign (cs : List Char) :
    ∃ sign, cs = sign ++ afterSign cs ∧ (sign = [] ∨ sign = ['+']) := by
  unfold afterSign
  split
  · exact ⟨['+'], rfl, .inr rfl⟩
  · exact ⟨[], rfl, .inl rfl⟩

/-- Digits behind a plus sign or nothing are what follows the sign. -/
theorem afterSign_append {sign ds : List Char} (hsign : sign = [] ∨ sign = ['+'])
    (hds : ∀ d ∈ ds, d.isDigit = true) : afterSign (sign ++ ds) = ds := by
  rcases hsign with rfl | rfl
  · -- The first digit is not taken for a sign.
    rw [List.nil_append]
    unfold afterSign
    split
    · next rest => cases hds '+' List.mem_cons_self
    · rfl
  · rfl

/-- A text is read as a number exactly if it spells it and it is small enough. -/
theorem unsigned?_eq_some_iff {most n : Nat} {text : String} :
    unsigned? most text = some n ↔ Spells text n ∧ n ≤ most := by
  have hread : unsigned? most text =
      if (afterSign text.toList).isEmpty || !(afterSign text.toList).all Char.isDigit then none
      else if decimalValue (afterSign text.toList) ≤ most then
        some (decimalValue (afterSign text.toList)) else none := rfl
  rw [hread]
  constructor
  · intro h
    split at h
    · cases h
    · next hdigits =>
      rw [Bool.or_eq_true, not_or, Bool.not_eq_true', List.isEmpty_iff, Bool.not_eq_false,
        List.all_eq_true] at hdigits
      split at h
      · next hle =>
        cases h
        obtain ⟨sign, htext, hsign⟩ := exists_sign text.toList
        exact ⟨⟨sign, _, htext, hsign, hdigits.1, hdigits.2, decimalValue_eq _⟩, hle⟩
      · cases h
  · rintro ⟨⟨sign, ds, htext, hsign, hsome, hds, rfl⟩, hle⟩
    rw [htext, afterSign_append hsign hds, decimalValue_eq, if_neg, if_pos hle]
    rw [Bool.or_eq_true, not_or, Bool.not_eq_true', List.isEmpty_iff, Bool.not_eq_false,
      List.all_eq_true]
    exact ⟨hsome, hds⟩

/-! ## Numbers from the environment -/

/-- Whether a variable gives a number of at most `most`: it is set, and its value without the blanks
around it spells the number. -/
def Gives (env : Environment) (key : String) (most n : Nat) : Prop :=
  ∃ raw, env key = some raw ∧ Spells (Text.trim raw) n ∧ n ≤ most

/-- How a setting follows from a variable. -/
structure IsSetBy (env : Environment) (key : String) (most : Nat) (adjust : Nat → Nat)
    (default value : Nat) : Prop where
  /-- A number that the variable gives is adjusted to the setting. -/
  given : ∀ n, Gives env key most n → value = adjust n
  /-- If it gives none, the setting is the default. -/
  otherwise : (∀ n, ¬ Gives env key most n) → value = default

variable {env : Environment} {key : String} {most : Nat}

/-- A variable gives a number exactly if it is read as this number. -/
theorem gives_iff {n : Nat} :
    Gives env key most n ↔
      ((env key).bind fun raw => unsigned? most (Text.trim raw)) = some n := by
  rw [Option.bind_eq_some_iff]
  exact exists_congr fun raw => and_congr_right fun _ => unsigned?_eq_some_iff.symm

/-- A number that is read from a variable and then adjusted follows from the variable. -/
theorem isSetBy_numberOr {adjust : Nat → Nat} {default : Nat} (h : adjust default = default) :
    IsSetBy env key most adjust default (adjust (numberOr env key most default)) where
  given n hn := by
    rw [numberOr, gives_iff.1 hn]
    rfl
  otherwise hnone := by
    have hread : ((env key).bind fun raw => unsigned? most (Text.trim raw)) = none :=
      Option.eq_none_iff_forall_ne_some.2 fun n hn => hnone n (gives_iff.2 hn)
    rw [numberOr, hread]
    exact h

/-- A period is never zero unless the default is. -/
theorem periodOr_pos {default : Nat} (h : 0 < default) : 0 < periodOr env key default := by
  unfold periodOr
  dsimp only
  split
  · exact h
  · next hne => exact Nat.pos_of_ne_zero hne

/-- A token is what a variable holds without the blanks around it, unless nothing is left. -/
theorem rpcToken_eq_some_iff {token : String} :
    rpcToken env = some token ↔
      ∃ raw, env "RPC_TOKEN" = some raw ∧ Text.trim raw = token ∧ token ≠ "" := by
  rw [rpcToken, Option.filter_eq_some_iff, Option.map_eq_some_iff, decide_eq_true_iff]
  constructor
  · rintro ⟨⟨raw, hraw, htrim⟩, hne⟩
    exact ⟨raw, hraw, htrim, hne⟩
  · rintro ⟨raw, hraw, htrim, hne⟩
    exact ⟨⟨raw, hraw, htrim⟩, hne⟩

end Settings

/-- A capacity in the range of capacities stays as it is. -/
theorem Channel.clampCapacity_of_mem {n : Nat} (hpos : 1 ≤ n) (hle : n ≤ 65536) :
    clampCapacity n = n := by
  unfold clampCapacity maxCapacity
  omega

/-- A capacity is brought into the range of capacities. -/
theorem Channel.clampCapacity_mem (n : Nat) : 1 ≤ clampCapacity n ∧ clampCapacity n ≤ 65536 := by
  unfold clampCapacity maxCapacity
  omega

namespace ServerSettings

open Settings

/-- How the settings follow from an environment. -/
structure FollowFrom (settings : ServerSettings) (env : Environment) : Prop where
  /-- Views and the shared fleet keep one pace. -/
  pace : settings.fleetTickInterval = settings.sessions.tickInterval
  /-- A tick takes a millisecond at least. -/
  pace_pos : 1 ≤ settings.sessions.tickInterval
  /-- The capacity is in the range of capacities. -/
  capacity_mem : 1 ≤ settings.queueCapacity ∧ settings.queueCapacity ≤ 65536
  /-- Each channel of a new server has this capacity. -/
  capacity_kept : ∀ (ρ : Type) (l : Lane),
    ((Server.create settings : Server ρ).hub.lane l).capacity = settings.queueCapacity
  /-- A token is not empty, and no blank stands at either end of it. -/
  token : ∀ token, settings.rpcToken = some token → token ≠ "" ∧ Text.IsTrimmed token
  /-- The capacity of the channels. -/
  queueCapacity : IsSetBy env "SUBSCRIBER_QUEUE_CAPACITY" (2 ^ 64 - 1)
    (fun n => max 1 (min n 65536)) 256 settings.queueCapacity
  /-- The milliseconds between ticks. -/
  tickInterval : IsSetBy env "TICK_INTERVAL_MS" (2 ^ 64 - 1)
    (fun n => if n = 0 then 1200 else n) 1200 settings.sessions.tickInterval
  /-- The milliseconds from the opening of a view to its connection. -/
  connectGrace : IsSetBy env "VIEW_CONNECT_GRACE_MS" (2 ^ 64 - 1) id 300
    settings.sessions.connectGrace
  /-- The size of a private fleet. -/
  mockInitialMarkers : IsSetBy env "MOCK_INITIAL_MARKERS" (2 ^ 64 - 1) id 5
    settings.sessions.mockInitialMarkers
  /-- The size of the shared fleet. -/
  fleetSize : IsSetBy env "SIM_FLEET_SIZE" (2 ^ 64 - 1) id 5 settings.fleetSize
  /-- The port, which is read beside the settings. -/
  port : IsSetBy env "DMAP_PORT" (2 ^ 16 - 1) id 8123 (Settings.port env)

/-- Whatever an environment says, the settings are ones that the server can run with, and each
integer among them is exactly the number that its variable spells, or the default. -/
theorem settings_are_safe_and_exact (env : Environment) : (ofEnvironment env).FollowFrom env where
  pace := rfl
  pace_pos := periodOr_pos (by decide)
  capacity_mem := Channel.clampCapacity_mem _
  capacity_kept ρ l := by
    obtain ⟨hpos, hle⟩ : 1 ≤ (ofEnvironment env).queueCapacity ∧
        (ofEnvironment env).queueCapacity ≤ 65536 := Channel.clampCapacity_mem _
    obtain ⟨name, hlane⟩ := Hub.lane_create (ofEnvironment env).queueCapacity l
    show ((Hub.create (ofEnvironment env).queueCapacity).lane l).capacity = _
    rw [hlane]
    exact Channel.clampCapacity_of_mem hpos hle
  token token h := by
    obtain ⟨raw, -, rfl, hne⟩ := rpcToken_eq_some_iff.1 h
    exact ⟨hne, Text.isTrimmed_trim raw⟩
  queueCapacity := isSetBy_numberOr rfl
  tickInterval := isSetBy_numberOr rfl
  connectGrace := isSetBy_numberOr rfl
  mockInitialMarkers := isSetBy_numberOr rfl
  fleetSize := isSetBy_numberOr rfl
  port := isSetBy_numberOr rfl

-- The first number that is too large for the setting is not cut down to it.
example : (ofEnvironment fun key =>
    if key = "SIM_FLEET_SIZE" then some " +18446744073709551616" else none).fleetSize = 5 := by
  decide +kernel

end ServerSettings

end LiveMap
