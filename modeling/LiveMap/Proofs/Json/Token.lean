import LiveMap.Json.Printer
import LiveMap.Json.Reader
import LiveMap.Proofs.Failable

/-!
# Strings and integers, written and read back

A string is read back from its quoted form whatever its characters are: each escape stands for the
character that it was written for (`stringBody_escape`), so a reader that is inside a string takes
the written characters one by one. An integer is read back from its digits if it is one of those
that a number holds (`IsWord`), provided that what follows does not go on with the numeral. In a
text that was written, a value is followed by a comma, a bracket, a brace or nothing (`Boundary`).

Main statements: `string_escaped`, `number_intText`.
-/

namespace LiveMap.Json

/-- What may follow a value in a text that was written. -/
inductive Boundary : List Char → Prop
  /-- The end of the text. -/
  | nothing : Boundary []
  /-- Another item or member. -/
  | comma (rest : List Char) : Boundary (',' :: rest)
  /-- The end of an array. -/
  | bracket (rest : List Char) : Boundary (']' :: rest)
  /-- The end of an object. -/
  | brace (rest : List Char) : Boundary ('\x7d' :: rest)

/-- Whether an integer is one that a number holds: at least `-2^63` and below `2^64`. -/
def IsWord (n : Int) : Prop := -(Nat.pow 2 63 : Int) ≤ n ∧ n < (Nat.pow 2 64 : Int)

/-! ## Written strings and integers -/

/-- A character is written as a backslash and the letter that stands for it, as itself, or as the
digits of a control character. -/
theorem escape_cases (c : Char) :
    (∃ letter, escape c = ['\\', letter] ∧ Reader.escapeLetter? letter = some c) ∨
      (escape c = [c] ∧ c ≠ '"' ∧ c ≠ '\\' ∧ ¬ c < ' ') ∨
      (escape c = controlEscape c ∧ c.toNat < 32) := by
  unfold escape
  split
  · next h => exact .inl ⟨'"', rfl, congrArg some h.symm⟩
  split
  · next h => exact .inl ⟨'\\', rfl, congrArg some h.symm⟩
  split
  · next hquote hbackslash h => exact .inr (.inl ⟨rfl, hquote, hbackslash, Char.not_lt.2 h⟩)
  split
  · next h => exact .inl ⟨'b', rfl, by rw [← Char.ofNat_toNat c, h]; rfl⟩
  split
  · next h => exact .inl ⟨'t', rfl, congrArg some h.symm⟩
  split
  · next h => exact .inl ⟨'n', rfl, congrArg some h.symm⟩
  split
  · next h => exact .inl ⟨'f', rfl, by rw [← Char.ofNat_toNat c, h]; rfl⟩
  split
  · next h => exact .inl ⟨'r', rfl, congrArg some h.symm⟩
  · next h _ _ _ _ _ => exact .inr (.inr ⟨rfl, Char.lt_def.1 (Char.not_le.1 h)⟩)

/-- The written form of some characters in front of the closing quote. -/
def escaped (cs : List Char) (rest : List Char) : List Char :=
  cs.foldr (fun c rest => escape c ++ rest) ('"' :: rest)

/-- A written string is its escaped characters in quotes. -/
theorem writeString_eq (s : String) (rest : List Char) :
    writeString s rest = '"' :: escaped s.toList rest := rfl

/-- Every character takes room. -/
theorem length_lt_length_escaped (cs rest : List Char) :
    cs.length + rest.length < (escaped cs rest).length := by
  induction cs with
  | nil =>
    rw [List.length_nil, Nat.zero_add]
    exact Nat.lt_succ_self _
  | cons c cs ih =>
    have hroom : 0 < (escape c).length := by
      rcases escape_cases c with ⟨letter, hc, -⟩ | ⟨hc, -⟩ | ⟨hc, -⟩ <;> rw [hc] <;>
        exact Nat.succ_pos _
    have hlength : (escaped (c :: cs) rest).length =
        (escape c).length + (escaped cs rest).length := List.length_append
    rw [hlength, List.length_cons]
    omega

/-- The digits of a positive number do not start with zero. -/
theorem exists_toDigits_eq_cons {n : Nat} (hn : 0 < n) :
    ∃ d ds, Nat.toDigits 10 n = d :: ds ∧ d ≠ '0' := by
  induction n using Nat.strongRecOn with
  | ind n ih =>
    by_cases hsmall : n < 10
    · exact ⟨n.digitChar, [], Nat.toDigits_of_lt_base hsmall,
        fun h => Nat.ne_of_gt hn (Nat.digitChar_eq_zero.1 h)⟩
    · obtain ⟨d, ds, hds, hd⟩ := ih (n / 10) (by omega) (by omega)
      refine ⟨d, ds ++ [(n % 10).digitChar], ?_, hd⟩
      rw [Nat.toDigits_of_base_le (by decide) (Nat.le_of_not_lt hsmall), hds, List.cons_append]

/-- The digits of a number are digits. -/
theorem isDigit_of_mem_toDigits_ten {n : Nat} {d : Char} (hd : d ∈ Nat.toDigits 10 n) :
    d.isDigit = true :=
  Nat.isDigit_of_mem_toDigits (by decide) (by decide) hd

/-- The digits of a number start with a digit. -/
theorem exists_toDigits_eq_digit_cons (n : Nat) :
    ∃ d ds, Nat.toDigits 10 n = d :: ds ∧ d.isDigit = true := by
  have hsome : Nat.toDigits 10 n ≠ [] := Nat.toDigits_ne_nil
  obtain ⟨d, ds, hds⟩ := List.exists_cons_of_ne_nil hsome
  exact ⟨d, ds, hds, isDigit_of_mem_toDigits_ten (hds ▸ List.mem_cons_self)⟩

/-- The text of an integer starts with a minus sign or a digit. -/
theorem exists_intText_eq_cons (n : Int) :
    ∃ c text, intText n = c :: text ∧ (c = '-' ∨ c.isDigit = true) := by
  unfold intText
  split
  · exact ⟨_, _, rfl, .inl rfl⟩
  · obtain ⟨d, ds, hds, hd⟩ := exists_toDigits_eq_digit_cons n.natAbs
    exact ⟨d, ds, hds, .inr hd⟩

namespace Reader

variable {ε : Type} {excuse : Excuse ε} {rest : List Char}

/-! ## Reading strings -/

/-- The four digits of a control character stand for its number. -/
theorem hexNumber?_controlEscape : ∀ n < 32,
    hexNumber? ['0', '0', Nat.digitChar (n / 16), Nat.digitChar (n % 16)] = some n := by
  decide

/-- The four digits of a control character take a byte each. -/
theorem byteCount_controlEscape : ∀ n < 32,
    byteCount ['0', '0', Nat.digitChar (n / 16), Nat.digitChar (n % 16)] = 4 := by
  decide

/-- The four digits of a control character are read as the character. -/
theorem unicodeEscape_controlEscape {c : Char} (hc : c.toNat < 32) :
    unicodeEscape ('0' :: '0' :: Nat.digitChar (c.toNat / 16) :: Nat.digitChar (c.toNat % 16) ::
      rest) = .ok (.ok c, rest) := by
  have hfour : fourHex ('0' :: '0' :: Nat.digitChar (c.toNat / 16) ::
      Nat.digitChar (c.toNat % 16) :: rest) = .ok (c.toNat, rest) := by
    unfold fourHex
    simp only [List.take_succ_cons, List.take_zero, List.drop_succ_cons, List.drop_zero]
    rw [byteCount_controlEscape _ hc, hexNumber?_controlEscape _ hc]
    rfl
  have htrailing : isTrailing c.toNat = false := by
    simp only [isTrailing, Bool.and_eq_false_iff, decide_eq_false_iff_not]
    omega
  have hleading : isLeading c.toNat = false := by
    simp only [isLeading, Bool.and_eq_false_iff, decide_eq_false_iff_not]
    omega
  unfold unicodeEscape
  refine bind_eq_ok_of hfour ?_
  simp only [htrailing, hleading, Char.ofNat_toNat]
  rfl

/-- The written form of a character is read as the character. -/
theorem stringBody_escape {fuel : Nat} {acc : Except ε (List Char)} (c : Char) :
    stringBody excuse (fuel + 1) acc (escape c ++ rest) =
      stringBody excuse fuel (acc.map (c :: ·)) rest := by
  rcases escape_cases c with ⟨letter, hc, hletter⟩ | ⟨hc, hquote, hbackslash, hspace⟩ | ⟨hc, hlow⟩
  · -- The letter `u` stands for no character, so it is not taken for four digits.
    have hu : letter ≠ 'u' := by
      rintro rfl
      cases hletter
    rw [hc, List.cons_append, List.cons_append, List.nil_append, stringBody, hletter]
    exact hu
  · rw [hc, List.cons_append, List.nil_append, stringBody, if_neg hspace]
    · exact hquote
    · exact fun h _ => hbackslash h
    · exact fun _ h _ => hbackslash h
    · exact fun _ _ h _ => hbackslash h
  · rw [hc, controlEscape, List.cons_append, List.cons_append, stringBody]
    simp only [List.cons_append, List.nil_append]
    rw [unicodeEscape_controlEscape hlow]
    rfl

/-- Escaped characters are read up to the closing quote, each as itself. -/
theorem stringBody_escaped (cs : List Char) :
    ∀ {fuel : Nat} {acc : List Char}, cs.length < fuel →
      stringBody excuse fuel (.ok acc) (escaped cs rest) =
        .ok (.ok (String.ofList (acc.reverse ++ cs)), rest) := by
  induction cs with
  | nil =>
    intro fuel acc hfuel
    obtain ⟨fuel, rfl⟩ := Nat.exists_eq_succ_of_ne_zero (Nat.ne_of_gt hfuel)
    rw [List.append_nil]
    rfl
  | cons c cs ih =>
    intro fuel acc hfuel
    obtain ⟨fuel, rfl⟩ := Nat.exists_eq_succ_of_ne_zero (Nat.ne_of_gt (Nat.zero_lt_of_lt hfuel))
    have hread : stringBody excuse fuel (.ok (c :: acc)) (escaped cs rest) =
        .ok (.ok (String.ofList ((c :: acc).reverse ++ cs)), rest) :=
      ih (Nat.lt_of_succ_lt_succ hfuel)
    rw [List.reverse_cons, List.append_assoc, List.singleton_append] at hread
    exact (stringBody_escape c).trans hread

/-- A written string is read back, whatever its characters are. -/
theorem string_escaped (s : String) :
    string excuse (escaped s.toList rest) = .ok (.ok s, rest) := by
  have hroom := length_lt_length_escaped s.toList rest
  have hread : string excuse (escaped s.toList rest) =
      .ok (.ok (String.ofList ([].reverse ++ s.toList)), rest) :=
    stringBody_escaped s.toList (by omega)
  rwa [List.reverse_nil, List.nil_append, String.ofList_toList] at hread

/-! ## Reading integers -/

/-- What a boundary leaves of a text does not go on with digits. -/
theorem digits_append {ds : List Char} (hds : ∀ d ∈ ds, d.isDigit = true) (hrest : Boundary rest) :
    digits (ds ++ rest) = (ds.map digitValue, rest) := by
  have htake : rest.takeWhile Char.isDigit = [] := by cases hrest <;> rfl
  have hdrop : rest.dropWhile Char.isDigit = rest := by cases hrest <;> rfl
  unfold digits
  rw [List.takeWhile_append_of_pos hds, List.dropWhile_append_of_pos hds, htake, hdrop,
    List.append_nil]

/-- The digits of a number are read as the digits before the point. -/
theorem wholePart_toDigits (n : Nat) (hrest : Boundary rest) :
    wholePart (Nat.toDigits 10 n ++ rest) = .ok ((Nat.toDigits 10 n).map digitValue, rest) := by
  have hdigits := digits_append (fun d hd => isDigit_of_mem_toDigits_ten (n := n) hd) hrest
  -- Only zero starts with a zero, which has to stand alone.
  rcases Nat.eq_zero_or_pos n with rfl | hn
  · cases hrest <;> rfl
  · obtain ⟨d, ds, hds, hd⟩ := exists_toDigits_eq_cons hn
    rw [hds] at hdigits ⊢
    rw [List.cons_append] at hdigits ⊢
    rw [wholePart, someDigits, hdigits]
    · rfl
    · exact fun _ h => hd (List.cons.inj h).1

/-- The digits of a number are a numeral without point and exponent. -/
theorem unsigned_toDigits (negative : Bool) (n : Nat) (hrest : Boundary rest) :
    unsigned negative (Nat.toDigits 10 n ++ rest) =
      .ok (⟨negative, (Nat.toDigits 10 n).map digitValue, none, none⟩, rest) := by
  refine bind_eq_ok_of (wholePart_toDigits n hrest) ?_
  cases hrest <;> rfl

/-- The written form of an integer is a numeral without point and exponent. -/
theorem numeral_intText (n : Int) (hrest : Boundary rest) :
    numeral (intText n ++ rest) =
      .ok (⟨decide (n < 0), (Nat.toDigits 10 n.natAbs).map digitValue, none, none⟩, rest) := by
  unfold intText
  by_cases hn : n < 0
  · rw [if_pos hn, decide_eq_true hn]
    exact unsigned_toDigits true n.natAbs hrest
  · rw [if_neg hn, decide_eq_false hn, numeral]
    · exact unsigned_toDigits false n.natAbs hrest
    · intro tail h
      obtain ⟨d, ds, hds, hd⟩ := exists_toDigits_eq_digit_cons n.natAbs
      rw [hds, List.cons_append] at h
      rw [(List.cons.inj h).1] at hd
      cases hd

end Reader

/-! ## The value of an integer -/

/-- A digit that fits is taken. -/
theorem takeWhole_of_le {m d : Nat} (h : m * 10 + d ≤ Collected.maxSignificand) :
    Collected.takeWhole ⟨m, 0, false⟩ d = ⟨m * 10 + d, 0, false⟩ := if_pos h

/-- The digits of a number of at most 64 bits are all taken. -/
theorem whole_toDigits {n : Nat} (hn : n ≤ Collected.maxSignificand) :
    Collected.whole ((Nat.toDigits 10 n).map Reader.digitValue) = ⟨n, 0, false⟩ := by
  unfold Collected.whole
  -- The last digit is taken last, so the induction is on the number without it.
  induction n using Nat.strongRecOn with
  | ind n ih =>
    by_cases hsmall : n < 10
    · have hvalue : Reader.digitValue n.digitChar = n := Nat.toNat_digitChar_sub_48_of_lt_ten hsmall
      have hstart : 0 * 10 + n = n := by rw [Nat.zero_mul, Nat.zero_add]
      rw [Nat.toDigits_of_lt_base hsmall, List.map_singleton, hvalue, List.foldl_cons,
        List.foldl_nil, takeWhole_of_le (hstart.symm ▸ hn), hstart]
    · have hlast : Reader.digitValue (n % 10).digitChar = n % 10 :=
        Nat.toNat_digitChar_sub_48_of_lt_ten (Nat.mod_lt n (by decide))
      have hall : n / 10 * 10 + n % 10 = n := Nat.div_add_mod' n 10
      rw [Nat.toDigits_of_base_le (by decide) (Nat.le_of_not_lt hsmall), List.map_append,
        List.map_singleton, hlast, List.foldl_append, ih (n / 10) (by omega) (by omega),
        List.foldl_cons, List.foldl_nil, takeWhole_of_le (hall.symm ▸ hn), hall]

/-- An integer of at most 64 bits is the value of its digits and its sign. -/
theorem toInt?_natAbs {n : Int} (hn : IsWord n) :
    Numeral.toInt? (decide (n < 0)) ⟨n.natAbs, 0, false⟩ = some n := by
  obtain ⟨hleast, -⟩ := hn
  unfold Numeral.toInt?
  rw [if_neg Bool.false_ne_true]
  by_cases hneg : n < 0
  · have hfit : 0 < n.natAbs ∧ n.natAbs ≤ Nat.pow 2 63 := by omega
    rw [decide_eq_true hneg, Bool.not_true, if_neg Bool.false_ne_true, if_pos hfit]
    have hvalue : -(n.natAbs : Int) = n := by omega
    exact congrArg some hvalue
  · rw [decide_eq_false hneg, Bool.not_false, if_pos (Eq.refl true)]
    exact congrArg some (Int.natAbs_of_nonneg (Int.not_lt.1 hneg))

/-- The numeral of an integer stands for the integer. -/
theorem value_natAbs {n : Int} (hn : IsWord n) :
    Numeral.value ⟨decide (n < 0), (Nat.toDigits 10 n.natAbs).map Reader.digitValue, none, none⟩ =
      .ok (.int n) := by
  have hfit : n.natAbs ≤ Collected.maxSignificand := by
    have h63 : Nat.pow 2 63 = 9223372036854775808 := rfl
    have h64 : Nat.pow 2 64 = 18446744073709551616 := rfl
    unfold IsWord at hn
    unfold Collected.maxSignificand
    rw [h63, h64] at hn
    rw [h64]
    omega
  unfold Numeral.value Collected.digits
  simp only [whole_toDigits hfit, Option.isNone_none, if_true, toInt?_natAbs hn]

/-- The written form of an integer is read as the integer. -/
theorem Reader.number_intText {ε : Type} {excuse : Excuse ε} {rest : List Char} {n : Int}
    (hn : IsWord n) (hrest : Boundary rest) :
    Reader.number excuse (intText n ++ rest) = .ok (.num (.ok (.int n)), rest) := by
  refine bind_eq_ok_of (Reader.numeral_intText n hrest) ?_
  dsimp only
  rw [value_natAbs hn]
  rfl

end LiveMap.Json
