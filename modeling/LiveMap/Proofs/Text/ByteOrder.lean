import Mathlib.Data.String.Basic

/-!
# The order of the bytes of a text

Texts are compared character by character, and their UTF-8 forms byte by byte. UTF-8 is made so that
both orders agree. The bytes of a smaller character and those of a greater one are the same up to a
place where the smaller one has the smaller byte (`parts_utf8EncodeChar`), so what follows them does
not matter. Two texts are therefore told apart at the first character in which they differ.

Main statement: `bytes_lt`.
-/

namespace LiveMap.Text

/-- The UTF-8 form of a text. -/
def bytes (s : String) : List UInt8 := s.toUTF8.data.toList

/-- Two sequences of bytes part at some place, where the first has the smaller byte. -/
def Parts (p q : List UInt8) : Prop :=
  ∃ common x y p' q', p = common ++ x :: p' ∧ q = common ++ y :: q' ∧ x < y

/-- The UTF-8 form of a text is that of its characters, one after the other. -/
theorem bytes_eq (s : String) : bytes s = s.toList.flatMap String.utf8EncodeChar := by
  have hchars : s.toList.utf8Encode = s.toByteArray := String.utf8Encode_toList
  rw [bytes, String.toUTF8, ← hchars, List.utf8Encode, List.data_toByteArray]

/-! ## One character -/

/-- Where two sequences part, the order is decided, whatever follows. -/
theorem Parts.append_lt {p q : List UInt8} (h : Parts p q) (s t : List UInt8) :
    p ++ s < q ++ t := by
  obtain ⟨common, x, y, p', q', rfl, rfl, hlt⟩ := h
  rw [List.append_assoc, List.append_assoc]
  exact List.append_left_lt (List.cons_lt_cons_iff.2 (Or.inl hlt))

/-- Sequences part at their first bytes, or afterwards. -/
theorem parts_cons {a b : Nat} (hle : a ≤ b) (hb : b < 256) {p q : List UInt8}
    (h : a = b → Parts p q) : Parts (UInt8.ofNat a :: p) (UInt8.ofNat b :: q) := by
  rcases Nat.lt_or_eq_of_le hle with hlt | rfl
  · refine ⟨[], _, _, p, q, rfl, rfl, ?_⟩
    rw [UInt8.lt_iff_toNat_lt, UInt8.toNat_ofNat', UInt8.toNat_ofNat']
    omega
  · obtain ⟨common, x, y, p', q', rfl, rfl, hlt⟩ := h rfl
    exact ⟨UInt8.ofNat a :: common, x, y, p', q', rfl, rfl, hlt⟩

/-- Sequences part at their first bytes if the first one is smaller. -/
theorem parts_of_lt {a b : Nat} (hlt : a < b) (hb : b < 256) {p q : List UInt8} :
    Parts (UInt8.ofNat a :: p) (UInt8.ofNat b :: q) :=
  parts_cons (Nat.le_of_lt hlt) hb fun h => absurd h (Nat.ne_of_lt hlt)

/-- The bytes of a smaller character part from those of a greater one. -/
theorem parts_utf8EncodeChar {c d : Char} (h : c < d) :
    Parts (String.utf8EncodeChar c) (String.utf8EncodeChar d) := by
  have hlt : c.val.toNat < d.val.toNat := h
  have hd : d.val.toNat < 0x110000 := by
    have hvalid := d.valid
    rcases hvalid with hlow | ⟨-, hhigh⟩ <;> omega
  unfold String.utf8EncodeChar
  dsimp only
  generalize c.val.toNat = v at hlt
  generalize d.val.toNat = w at hlt hd
  -- The first byte tells how many there are, and more of them stand for greater characters.
  split
  case isTrue hv =>
    split
    case isTrue => exact parts_of_lt (by omega) (by omega)
    case isFalse =>
      split
      case isTrue => exact parts_of_lt (by omega) (by omega)
      case isFalse => split <;> exact parts_of_lt (by omega) (by omega)
  case isFalse hv =>
    have hw : ¬w ≤ 127 := by omega
    rw [if_neg hw]
    split
    case isTrue hv₂ =>
      split
      case isTrue =>
        refine parts_cons (by omega) (by omega) fun h₁ => ?_
        exact parts_of_lt (by omega) (by omega)
      case isFalse => split <;> exact parts_of_lt (by omega) (by omega)
    case isFalse hv₂ =>
      have hw₂ : ¬w ≤ 2047 := by omega
      rw [if_neg hw₂]
      split
      case isTrue hv₃ =>
        split
        case isTrue =>
          refine parts_cons (by omega) (by omega) fun h₁ => ?_
          refine parts_cons (by omega) (by omega) fun h₂ => ?_
          exact parts_of_lt (by omega) (by omega)
        case isFalse => exact parts_of_lt (by omega) (by omega)
      case isFalse hv₃ =>
        have hw₃ : ¬w ≤ 65535 := by omega
        rw [if_neg hw₃]
        refine parts_cons (by omega) (by omega) fun h₁ => ?_
        refine parts_cons (by omega) (by omega) fun h₂ => ?_
        refine parts_cons (by omega) (by omega) fun h₃ => ?_
        exact parts_of_lt (by omega) (by omega)

/-! ## Texts -/

/-- A smaller sequence of characters has the smaller UTF-8 form. -/
theorem flatMap_utf8EncodeChar_lt {l l' : List Char} (h : l < l') :
    l.flatMap String.utf8EncodeChar < l'.flatMap String.utf8EncodeChar := by
  induction l generalizing l' with
  | nil =>
    cases l' with
    | nil => exact absurd h (List.lt_irrefl _)
    | cons d rest' =>
      -- Every character has at least one byte.
      obtain ⟨b, more, hb⟩ := List.exists_cons_of_ne_nil (String.utf8EncodeChar_ne_nil (c := d))
      rw [List.flatMap_nil, List.flatMap_cons, hb]
      exact List.nil_lt_cons _ _
  | cons c rest ih =>
    cases l' with
    | nil => cases h
    | cons d rest' =>
      rw [List.flatMap_cons, List.flatMap_cons]
      rcases List.cons_lt_cons_iff.1 h with hlt | ⟨rfl, hrest⟩
      · exact (parts_utf8EncodeChar hlt).append_lt _ _
      · exact List.append_left_lt (ih hrest)

/-- A smaller text has the smaller UTF-8 form. -/
theorem bytes_lt {s t : String} (h : s < t) : bytes s < bytes t := by
  rw [bytes_eq, bytes_eq]
  exact flatMap_utf8EncodeChar_lt (String.lt_iff_toList_lt.1 h)

example : bytes "é" < bytes "日本" := by decide

end LiveMap.Text
