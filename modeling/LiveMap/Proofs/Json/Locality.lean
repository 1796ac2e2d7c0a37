import LiveMap.Proofs.Json.Token

/-!
# Words, numbers and strings wherever they stand

What the reader finds at the start of a text it finds there whatever stands behind, as long as a
numeral is not gone on with: words, the digits and parts of numerals, escapes, strings, and the
colon of a member. What is left of the text is left in front of what stands behind.

The same holds for the lenient reader (`lenient`), of what any reader finds; but where it goes on
after half a surrogate pair, the mark says nothing (`unmark`).

Main statements: `numeral_append`, `string_append`.
-/

namespace LiveMap.Json

/-- A result whose failure says nothing. -/
def unmark {ε α : Type} (x : Except ε α) : Except Unit α := x.mapError fun _ => ()

namespace Reader

variable {ε : Type} {excuse : Excuse ε} {text rest suffix : List Char}

/-- The lenient reader goes on after whatever leaves the grammar intact. -/
def lenient : Excuse Unit := fun _ => .ok ()

/-! ## Blanks and words -/

/-- Blanks are skipped up to the first character that is none. -/
theorem skipBlanks_append (h : skipBlanks text ≠ []) :
    skipBlanks (text ++ suffix) = skipBlanks text ++ suffix := by
  unfold skipBlanks at h ⊢
  rw [List.dropWhile_append, if_neg]
  rwa [List.isEmpty_iff]

/-- Nothing but blanks is skipped altogether. -/
theorem skipBlanks_append_of_nil (h : skipBlanks text = []) :
    skipBlanks (text ++ suffix) = skipBlanks suffix := by
  unfold skipBlanks at h ⊢
  rw [List.dropWhile_append, if_pos]
  rwa [List.isEmpty_iff]

/-- What is found behind the blanks is found there in front of anything. -/
theorem skipBlanks_append_cons {c : Char} {after : List Char} (h : skipBlanks text = c :: after) :
    skipBlanks (text ++ suffix) = c :: (after ++ suffix) := by
  have hne : skipBlanks text ≠ [] := h ▸ List.cons_ne_nil c after
  rw [skipBlanks_append hne, h, List.cons_append]

/-- A word in front of something is read. -/
theorem word_append {letters : List Char} (h : word letters text = .ok rest) :
    word letters (text ++ suffix) = .ok (rest ++ suffix) := by
  induction letters generalizing text with
  | nil =>
    cases h
    rfl
  | cons l letters ih =>
    cases text with
    | nil => cases h
    | cons c text =>
      rw [word] at h
      rw [List.cons_append, word]
      split at h
      · next hc =>
        rw [if_pos hc]
        exact ih h
      · cases h

/-! ## Numbers -/

/-- Digits end where a boundary starts. -/
theorem digits_append_of_boundary (text : List Char) (hs : Boundary suffix) :
    digits (text ++ suffix) = ((digits text).1, (digits text).2 ++ suffix) := by
  induction text with
  | nil => cases hs <;> rfl
  | cons c text ih =>
    unfold digits at ih ⊢
    obtain ⟨htake, hdrop⟩ := Prod.mk.inj ih
    by_cases hc : c.isDigit = true
    · rw [List.cons_append, List.takeWhile_cons_of_pos hc, List.dropWhile_cons_of_pos hc,
        List.takeWhile_cons_of_pos hc, List.dropWhile_cons_of_pos hc, List.map_cons, List.map_cons,
        htake, hdrop]
    · rw [List.cons_append, List.takeWhile_cons_of_neg hc, List.dropWhile_cons_of_neg hc,
        List.takeWhile_cons_of_neg hc, List.dropWhile_cons_of_neg hc]
      rfl

/-- Some digits are found if there are any. -/
theorem someDigits_eq_ok_iff {ds : List Nat} :
    someDigits text = .ok (ds, rest) ↔ digits text = (ds, rest) ∧ ds ≠ [] := by
  unfold someDigits
  generalize digits text = found
  obtain ⟨found, after⟩ := found
  cases found with
  | nil =>
    refine iff_of_false (fun h => ?_) fun ⟨h, hne⟩ => hne (Prod.mk.inj h).1.symm
    cases after <;> cases h
  | cons d ds =>
    constructor
    · intro h
      cases h
      exact ⟨rfl, List.cons_ne_nil d ds⟩
    · rintro ⟨h, -⟩
      cases h
      rfl

/-- Some digits in front of a boundary are read. -/
theorem someDigits_append {ds : List Nat} (hs : Boundary suffix)
    (h : someDigits text = .ok (ds, rest)) :
    someDigits (text ++ suffix) = .ok (ds, rest ++ suffix) := by
  obtain ⟨hdigits, hne⟩ := someDigits_eq_ok_iff.1 h
  rw [someDigits_eq_ok_iff, digits_append_of_boundary text hs, hdigits]
  exact ⟨rfl, hne⟩

/-- Where there is nothing there are no digits. -/
theorem someDigits_nil_ne_ok {r : List Nat × List Char} : someDigits [] ≠ .ok r := by
  intro h
  cases h

/-- The digits before the point, in front of a boundary. -/
theorem wholePart_append {ds : List Nat} (hs : Boundary suffix)
    (h : wholePart text = .ok (ds, rest)) :
    wholePart (text ++ suffix) = .ok (ds, rest ++ suffix) := by
  unfold wholePart at h
  split at h
  · next after =>
    rw [List.cons_append, wholePart, digits_append_of_boundary after hs]
    split at h
    · next hdigits =>
      cases h
      rw [hdigits]
    · cases h
  · next hzero =>
    cases text with
    | nil => exact absurd h someDigits_nil_ne_ok
    | cons c text =>
      rw [List.cons_append, wholePart]
      · exact someDigits_append hs h
      · rintro after hafter
        exact hzero text (congrArg (· :: text) (List.cons.inj hafter).1)

/-- The point and the digits after it, in front of a boundary. -/
theorem fractionPart_append {ds : Option (List Nat)} (hs : Boundary suffix)
    (h : fractionPart text = .ok (ds, rest)) :
    fractionPart (text ++ suffix) = .ok (ds, rest ++ suffix) := by
  unfold fractionPart at h
  split at h
  · next after =>
    obtain ⟨⟨found, rest'⟩, hfound, h⟩ := exists_of_bind_eq_ok h
    cases h
    rw [List.cons_append, fractionPart]
    exact bind_eq_ok_of (someDigits_append hs hfound) rfl
  · next hpoint =>
    cases h
    cases text with
    | nil => cases hs <;> rfl
    | cons c text =>
      rw [List.cons_append, fractionPart]
      rintro after hafter
      exact hpoint text (congrArg (· :: text) (List.cons.inj hafter).1)

/-- The sign of an exponent is read wherever there is something. -/
theorem exponentSign_append (h : text ≠ []) :
    exponentSign (text ++ suffix) = ((exponentSign text).1, (exponentSign text).2 ++ suffix) := by
  obtain ⟨c, text, rfl⟩ := List.exists_cons_of_ne_nil h
  rw [List.cons_append]
  unfold exponentSign
  split
  · next heq =>
    obtain ⟨rfl, rfl⟩ := List.cons.inj heq
    rfl
  · next heq =>
    obtain ⟨rfl, rfl⟩ := List.cons.inj heq
    rfl
  · next hminus hplus =>
    split
    · next heq => exact absurd (congrArg (· :: text ++ suffix) (List.cons.inj heq).1) (hminus _)
    · next heq => exact absurd (congrArg (· :: text ++ suffix) (List.cons.inj heq).1) (hplus _)
    · rfl

/-- The exponent, in front of a boundary. -/
theorem exponentPart_append {e : Option ExponentPart} (hs : Boundary suffix)
    (h : exponentPart text = .ok (e, rest)) :
    exponentPart (text ++ suffix) = .ok (e, rest ++ suffix) := by
  cases text with
  | nil =>
    cases h
    cases hs <;> rfl
  | cons c text =>
    rw [exponentPart] at h
    rw [List.cons_append, exponentPart]
    split at h
    · next hc =>
      obtain ⟨⟨found, rest'⟩, hfound, h⟩ := exists_of_bind_eq_ok h
      cases h
      have hne : text ≠ [] := by
        rintro rfl
        exact someDigits_nil_ne_ok hfound
      rw [if_pos hc, exponentSign_append hne]
      exact bind_eq_ok_of (someDigits_append hs hfound) rfl
    · next hc =>
      cases h
      rw [if_neg hc]
      rfl

/-- A numeral without its sign, in front of a boundary. -/
theorem unsigned_append {negative : Bool} {n : Numeral} (hs : Boundary suffix)
    (h : unsigned negative text = .ok (n, rest)) :
    unsigned negative (text ++ suffix) = .ok (n, rest ++ suffix) := by
  obtain ⟨⟨whole, rest₁⟩, hwhole, h⟩ := exists_of_bind_eq_ok h
  obtain ⟨⟨fraction, rest₂⟩, hfraction, h⟩ := exists_of_bind_eq_ok h
  obtain ⟨⟨exponent, rest₃⟩, hexponent, h⟩ := exists_of_bind_eq_ok h
  cases h
  exact bind_eq_ok_of (wholePart_append hs hwhole)
    (bind_eq_ok_of (fractionPart_append hs hfraction)
      (bind_eq_ok_of (exponentPart_append hs hexponent) rfl))

/-- A numeral in front of a boundary. -/
theorem numeral_append {n : Numeral} (hs : Boundary suffix) (h : numeral text = .ok (n, rest)) :
    numeral (text ++ suffix) = .ok (n, rest ++ suffix) := by
  unfold numeral at h
  split at h
  · exact unsigned_append hs h
  · next hminus =>
    cases text with
    | nil => cases h
    | cons c text =>
      rw [List.cons_append, numeral]
      · exact unsigned_append hs h
      · rintro after hafter
        exact hminus text (congrArg (· :: text) (List.cons.inj hafter).1)

/-! ## Strings -/

/-- Characters of one byte each take as many bytes as there are characters. -/
theorem byteCount_eq_length {cs : List Char} (h : ∀ c ∈ cs, c.utf8Size = 1) :
    byteCount cs = cs.length := by
  have hall : ∀ (cs : List Char) (n : Nat), (∀ c ∈ cs, c.utf8Size = 1) →
      cs.foldl (fun n c => n + c.utf8Size) n = n + cs.length := by
    intro cs
    induction cs with
    | nil => exact fun n _ => rfl
    | cons c cs ih =>
      intro n h
      rw [List.foldl_cons, ih _ fun d hd => h d (List.mem_cons_of_mem c hd),
        h c List.mem_cons_self, List.length_cons]
      omega
  exact (hall cs 0 h).trans (Nat.zero_add _)

/-- A hexadecimal digit takes one byte. -/
theorem utf8Size_of_hexValue? {c : Char} {n : Nat} (h : hexValue? c = some n) :
    c.utf8Size = 1 := by
  have hbyte : ∀ last : Char, last.val ≤ 0x7F → c ≤ last → c.utf8Size = 1 :=
    fun last hlast hc => Char.utf8Size_eq_one_iff.2 (UInt32.le_trans (Char.le_def.1 hc) hlast)
  unfold hexValue? at h
  split at h
  · next hdigit =>
    rw [Char.isDigit, Bool.and_eq_true, decide_eq_true_iff, decide_eq_true_iff] at hdigit
    exact hbyte '9' (by decide) hdigit.2
  split at h
  · next hlower => exact hbyte 'f' (by decide) hlower.2
  split at h
  · next hupper => exact hbyte 'F' (by decide) hupper.2
  · cases h

/-- What stands for a number are hexadecimal digits. -/
theorem exists_of_hexNumber? {cs : List Char} {n : Nat} (h : hexNumber? cs = some n) :
    ∀ c ∈ cs, ∃ m, hexValue? c = some m := by
  have hall : ∀ (cs : List Char) (acc : Option Nat),
      cs.foldl (fun acc c => do return (← acc) * 16 + (← hexValue? c)) acc = some n →
        acc ≠ none ∧ ∀ c ∈ cs, ∃ m, hexValue? c = some m := by
    intro cs
    induction cs with
    | nil =>
      intro acc h
      have hacc : acc = some n := h
      exact ⟨hacc ▸ Option.some_ne_none n, fun c hc => by cases hc⟩
    | cons c cs ih =>
      intro acc h
      obtain ⟨hnext, hrest⟩ := ih _ h
      obtain ⟨m, hm⟩ := Option.ne_none_iff_exists'.1 hnext
      obtain ⟨a, ha, hm⟩ := Option.bind_eq_some_iff.1 hm
      obtain ⟨v, hv, -⟩ := Option.bind_eq_some_iff.1 hm
      refine ⟨?_, List.forall_mem_cons.2 ⟨⟨v, hv⟩, hrest⟩⟩
      rw [ha]
      exact Option.some_ne_none a
  exact (hall cs (some 0) h).2

/-- Four hexadecimal digits are the first four characters. -/
theorem fourHex_append (suffix : List Char) {n : Nat} (h : fourHex text = .ok (n, rest)) :
    fourHex (text ++ suffix) = .ok (n, rest ++ suffix) := by
  unfold fourHex at h
  split at h
  · cases h
  · next hroom =>
    split at h
    · next hn =>
      cases h
      -- The digits take a byte each, so there are four of them.
      have hlength : byteCount (text.take 4) = (text.take 4).length :=
        byteCount_eq_length fun c hc =>
          let ⟨_, hm⟩ := exists_of_hexNumber? hn c hc
          utf8Size_of_hexValue? hm
      have hfour : 4 ≤ text.length := by
        rw [hlength, List.length_take] at hroom
        omega
      unfold fourHex
      rw [List.take_append_of_le_length hfour, List.drop_append_of_le_length hfour, if_neg hroom,
        hn]
    · cases h

/-- What an escape by number goes on with after the first half of a surrogate pair. -/
def secondHalf (n : Nat) (text : List Char) : Except Mishap (Except Mishap Char × List Char) :=
  match text with
  | [] => stop .eofString []
  | ['\\'] => stop .eofString []
  | '\\' :: 'u' :: rest => do
    let (m, rest) ← fourHex rest
    if isTrailing m then return (.ok (pairChar n m), rest)
    else return (.error ⟨.loneSurrogate, rest, 0⟩, rest)
  | '\\' :: other => return (.error ⟨.unexpectedEndOfEscape, other, 1⟩, text)
  | _ => return (.error ⟨.unexpectedEndOfEscape, text, 1⟩, text)

/-- An escape by number is half a surrogate pair, or a character, or both halves. -/
theorem unicodeEscape_of_fourHex {n : Nat} (h : fourHex text = .ok (n, rest)) :
    unicodeEscape text =
      if isTrailing n then .ok (.error ⟨.loneSurrogate, rest, 0⟩, rest)
      else if !isLeading n then .ok (.ok (Char.ofNat n), rest) else secondHalf n rest := by
  unfold unicodeEscape
  rw [h]
  rfl

/-- The second half of a surrogate pair, in front of anything. If it is not there, this is met in
both cases, but the unread part is another one. -/
theorem secondHalf_append (suffix : List Char) {n : Nat} {r : Except Mishap Char}
    (h : secondHalf n text = .ok (r, rest)) :
    ∃ r' : Except Mishap Char, secondHalf n (text ++ suffix) = .ok (r', rest ++ suffix) ∧
      r'.toOption = r.toOption := by
  unfold secondHalf at h
  split at h
  · cases h
  · cases h
  · next tail =>
    obtain ⟨⟨m, rest'⟩, hm, h⟩ := exists_of_bind_eq_ok h
    have hpair := fourHex_append suffix hm
    dsimp only at h
    rw [List.cons_append, List.cons_append, secondHalf]
    split at h
    · next hsecond =>
      cases h
      exact ⟨_, bind_eq_ok_of hpair (if_pos hsecond), rfl⟩
    · next hsecond =>
      cases h
      refine ⟨.error ⟨.loneSurrogate, rest ++ suffix, 0⟩, bind_eq_ok_of hpair ?_, rfl⟩
      exact if_neg hsecond
  · next other hsome hu =>
    cases h
    obtain ⟨c, other, rfl⟩ := List.exists_cons_of_ne_nil hsome
    rw [List.cons_append, List.cons_append, secondHalf]
    · exact ⟨_, rfl, rfl⟩
    · exact fun h => List.cons_ne_nil _ _ h
    · rintro after hafter
      exact hu other (congrArg (· :: other) (List.cons.inj hafter).1)
  · next hnil hend hu hbackslash =>
    cases h
    obtain ⟨c, text, rfl⟩ := List.exists_cons_of_ne_nil hnil
    have hc : c ≠ '\\' := fun hc => hbackslash text (congrArg (· :: text) hc)
    rw [List.cons_append, secondHalf]
    · exact ⟨_, rfl, rfl⟩
    · exact List.cons_ne_nil _ _
    · exact fun h => hc (List.cons.inj h).1
    · exact fun _ h => hc (List.cons.inj h).1
    · exact fun _ h => hc (List.cons.inj h).1

/-- An escape by number, in front of anything. If it is half a surrogate pair, this is met in both
cases, but the unread part is another one. -/
theorem unicodeEscape_append (suffix : List Char) {r : Except Mishap Char}
    (h : unicodeEscape text = .ok (r, rest)) :
    ∃ r' : Except Mishap Char, unicodeEscape (text ++ suffix) = .ok (r', rest ++ suffix) ∧
      r'.toOption = r.toOption := by
  obtain ⟨⟨n, after⟩, hn, -⟩ := exists_of_bind_eq_ok h
  rw [unicodeEscape_of_fourHex hn] at h
  rw [unicodeEscape_of_fourHex (fourHex_append suffix hn)]
  split at h
  · next htrailing =>
    cases h
    exact ⟨_, if_pos htrailing, rfl⟩
  · next htrailing =>
    rw [if_neg htrailing]
    split at h
    · next hleading =>
      cases h
      exact ⟨_, if_pos hleading, rfl⟩
    · next hleading =>
      rw [if_neg hleading]
      exact secondHalf_append suffix h

/-- The rest of a string, in front of anything. -/
theorem stringBody_append {fuel fuel' : Nat} {acc : Except ε (List Char)} {read : Except ε String}
    (hfuel : fuel ≤ fuel') (h : stringBody excuse fuel acc text = .ok (read, rest)) :
    stringBody lenient fuel' (unmark acc) (text ++ suffix) = .ok (unmark read, rest ++ suffix) := by
  induction fuel generalizing fuel' acc text with
  | zero => cases h
  | succ fuel ih =>
    obtain ⟨fuel', rfl⟩ : ∃ k, fuel' = k + 1 := ⟨fuel' - 1, by omega⟩
    have hfuel := Nat.le_of_succ_le_succ hfuel
    have hnext : ∀ {c : Char} {text : List Char},
        stringBody excuse fuel (acc.map (c :: ·)) text = .ok (read, rest) →
        stringBody lenient fuel' ((unmark acc).map (c :: ·)) (text ++ suffix) =
          .ok (unmark read, rest ++ suffix) := by
      intro c text h
      cases acc <;> exact ih hfuel h
    unfold stringBody at h
    split at h
    · cases h
    · cases h
      cases acc <;> rfl
    · cases h
    · next after =>
      obtain ⟨⟨r, after'⟩, hr, h⟩ := exists_of_bind_eq_ok h
      obtain ⟨r', hr', hsame⟩ := unicodeEscape_append suffix hr
      rw [List.cons_append, List.cons_append, stringBody]
      refine bind_eq_ok_of hr' ?_
      cases r with
      | ok c =>
        cases r' with
        | error _ => cases hsame
        | ok c' =>
          cases hsame
          exact hnext h
      | error mishap =>
        cases r' with
        | ok c' => cases hsame
        | error mishap' =>
          obtain ⟨mark, -, h⟩ := exists_of_bind_eq_ok h
          refine bind_eq_ok_of (a := ()) rfl ?_
          cases acc <;> exact ih hfuel h
    · next letter after hu =>
      rw [List.cons_append, List.cons_append, stringBody]
      · split at h
        · exact hnext h
        · cases h
      · exact hu
    · next c after hquote hend hu hescape =>
      have hbackslash : c ≠ '\\' := by
        intro hc
        cases after with
        | nil => exact hend hc rfl
        | cons letter after => exact hescape letter after hc rfl
      rw [List.cons_append, stringBody]
      · split at h
        · cases h
        · next hspace =>
          rw [if_neg hspace]
          exact hnext h
      · exact hquote
      · exact fun hc _ => hbackslash hc
      · exact fun _ hc _ => hbackslash hc
      · exact fun _ _ hc _ => hbackslash hc

/-- A string, in front of anything. -/
theorem string_append {read : Except ε String} (h : string excuse text = .ok (read, rest)) :
    string lenient (text ++ suffix) = .ok (unmark read, rest ++ suffix) := by
  refine stringBody_append ?_ h
  rw [List.length_append]
  omega

/-- The colon of a member, in front of anything. -/
theorem colon_append (h : colon text = .ok rest) :
    colon (text ++ suffix) = .ok (rest ++ suffix) := by
  unfold colon at h ⊢
  split at h
  · cases h
  · next heq =>
    cases h
    rw [skipBlanks_append_cons heq]
    rfl
  · cases h

end Reader

end LiveMap.Json
