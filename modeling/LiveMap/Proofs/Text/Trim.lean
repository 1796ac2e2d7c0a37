import LiveMap.Text.Blank
import Mathlib.Data.List.DropRight

/-!
# Texts without blanks around them

What is left of some characters, once those of a class are taken away at both ends, is the one part
of them that has nothing of the class at either end and nothing else around it (`trimBy_eq_iff`). So
a text that is trimmed already stays as it is.

Main statement: `trim_eq_iff`.
-/

namespace LiveMap.Text

variable {p : Char → Bool} {cs ds : List Char}

/-- Whether no character of a class stands at either end. -/
structure Bare (p : Char → Bool) (cs : List Char) : Prop where
  /-- Not at the start. -/
  first : ∀ c rest, cs = c :: rest → p c = false
  /-- Not at the end. -/
  last : ∀ rest c, cs = rest ++ [c] → p c = false

/-- Whether some characters are others with a class of characters around them. -/
def IsPadded (p : Char → Bool) (cs ds : List Char) : Prop :=
  ∃ before after, cs = before ++ (ds ++ after) ∧ (∀ c ∈ before, p c = true) ∧
    ∀ c ∈ after, p c = true

/-- What is left has nothing of the class at either end. -/
theorem bare_trimBy (p : Char → Bool) (cs : List Char) : Bare p (trimBy p cs) where
  first c rest h := by
    -- What is left is an initial part of what follows the class at the start.
    obtain ⟨after, hafter⟩ := List.rdropWhile_prefix p (cs.dropWhile p)
    have hstart : cs.dropWhile p = c :: (rest ++ after) := by
      rw [← hafter, ← List.cons_append, ← h]
      rfl
    have hsome : cs.dropWhile p ≠ [] := by
      rw [hstart]
      exact List.cons_ne_nil _ _
    have hkept := List.head_dropWhile_not p hsome
    simpa only [hstart, List.head_cons] using hkept
  last rest c h := by
    have hleft : (cs.dropWhile p).rdropWhile p = rest ++ [c] := h
    have hsome : (cs.dropWhile p).rdropWhile p ≠ [] := by
      rw [hleft]
      exact List.append_ne_nil_of_right_ne_nil _ (List.cons_ne_nil _ _)
    have hkept := List.rdropWhile_last_not p (cs.dropWhile p) hsome
    simpa only [hleft, List.getLast_append_singleton, Bool.not_eq_true] using hkept

/-- What was taken away is of the class. -/
theorem isPadded_trimBy (p : Char → Bool) (cs : List Char) : IsPadded p cs (trimBy p cs) := by
  refine ⟨cs.takeWhile p, (cs.dropWhile p).rtakeWhile p, ?_, fun c hc => ?_, fun c hc => ?_⟩
  · calc cs = cs.takeWhile p ++ cs.dropWhile p := List.takeWhile_append_dropWhile.symm
      _ = cs.takeWhile p ++ (trimBy p cs ++ (cs.dropWhile p).rtakeWhile p) :=
        congrArg _ List.rdropWhile_append_rtakeWhile.symm
  · exact List.mem_takeWhile_imp hc
  · exact List.mem_rtakeWhile_imp hc

/-- Characters of the class are taken away, and a bare part between them is left. -/
theorem trimBy_of_isPadded (hpad : IsPadded p cs ds) (hbare : Bare p ds) : trimBy p cs = ds := by
  obtain ⟨before, after, rfl, hbefore, hafter⟩ := hpad
  have hstart : (before ++ (ds ++ after)).dropWhile p = (ds ++ after).dropWhile p :=
    List.dropWhile_append_of_pos hbefore
  have hend : (ds ++ after).rdropWhile p = ds.rdropWhile p := by
    have hreverse : ∀ c ∈ after.reverse, p c = true :=
      fun c hc => hafter c (List.mem_reverse.1 hc)
    rw [List.rdropWhile, List.reverse_append, List.dropWhile_append_of_pos hreverse]
    rfl
  have hkept : ds.rdropWhile p = ds := by
    rw [List.rdropWhile_eq_self_iff]
    intro hsome
    exact Bool.eq_false_iff.1
      (hbare.last ds.dropLast _ (List.dropLast_append_getLast hsome).symm)
  show ((before ++ (ds ++ after)).dropWhile p).rdropWhile p = ds
  rw [hstart]
  cases ds with
  | nil =>
    have hnone : after.dropWhile p = [] := List.dropWhile_eq_nil_iff.2 hafter
    rw [List.nil_append, hnone]
    rfl
  | cons d ds =>
    have hfirst : ¬ p d = true := Bool.eq_false_iff.1 (hbare.first d ds rfl)
    rw [List.cons_append, List.dropWhile_cons_of_neg hfirst, ← List.cons_append, hend, hkept]

/-- What is left is the bare part with the class around it. -/
theorem trimBy_eq_iff : trimBy p cs = ds ↔ IsPadded p cs ds ∧ Bare p ds := by
  constructor
  · rintro rfl
    exact ⟨isPadded_trimBy p cs, bare_trimBy p cs⟩
  · rintro ⟨hpad, hbare⟩
    exact trimBy_of_isPadded hpad hbare

/-- What is bare stays as it is. -/
theorem trimBy_of_bare (h : Bare p cs) : trimBy p cs = cs :=
  trimBy_of_isPadded ⟨[], [], by rw [List.append_nil, List.nil_append], by simp, by simp⟩ h

/-- What is bare of a class is bare of a smaller one. -/
theorem Bare.of_imp {q : Char → Bool} (h : Bare p cs) (hq : ∀ c, q c = true → p c = true) :
    Bare q cs where
  first c rest hcs := Bool.eq_false_iff.2 fun hc =>
    Bool.eq_false_iff.1 (h.first c rest hcs) (hq c hc)
  last rest c hcs := Bool.eq_false_iff.2 fun hc =>
    Bool.eq_false_iff.1 (h.last rest c hcs) (hq c hc)

/-! ## Texts -/

/-- Whether no blank stands at either end of a text. -/
def IsTrimmed (s : String) : Prop := Bare isBlank s.toList

/-- A text without its blanks is the trimmed text that it has between them. -/
theorem trim_eq_iff {s t : String} :
    trim s = t ↔ IsPadded isBlank s.toList t.toList ∧ IsTrimmed t := by
  unfold trim IsTrimmed
  rw [← trimBy_eq_iff, ← String.ofList_toList (s := t), String.ofList_inj, String.toList_ofList]
  rfl

/-- A text without its blanks is trimmed. -/
theorem isTrimmed_trim (s : String) : IsTrimmed (trim s) := (trim_eq_iff.1 rfl).2

/-- A trimmed text stays as it is. -/
theorem trim_of_isTrimmed {s : String} (h : IsTrimmed s) : trim s = s := by
  rw [trim, trimChars, trimBy_of_bare h, String.ofList_toList]

end LiveMap.Text
