/-!
# Decoding UTF-8

Bytes are read one at a time. Between characters a byte either is a character of its own or starts a
longer one; then the reader knows how many bytes are still due and in which range the next one has
to lie. The ranges rule out characters that are too long for their value, surrogates and values
beyond the last character. What is wrong is reported with the place where the bad character starts.
-/

namespace LiveMap.Text.Utf8

/-- Why some bytes are not UTF-8. -/
inductive Fault where
  /-- After `length` bytes of a character that starts at `index` something else follows. -/
  | invalid (length index : Nat)
  /-- The bytes end inside the character that starts at `index`. -/
  | incomplete (index : Nat)
  deriving DecidableEq, Repr

/-- The wording of a fault. -/
def Fault.message : Fault → String
  | invalid length index =>
    "invalid utf-8 sequence of " ++ toString length ++ " bytes from index " ++ toString index
  | incomplete index => "incomplete utf-8 byte sequence from index " ++ toString index

/-- A character of which some bytes have been read. -/
structure Partial where
  /-- Where it starts. -/
  start : Nat
  /-- The number of bytes read. -/
  length : Nat
  /-- The number of bytes still due after the next one. -/
  due : Nat
  /-- The bits read so far. -/
  bits : Nat
  /-- The least value of the next byte. -/
  lo : Nat
  /-- The greatest value of the next byte. -/
  hi : Nat

/-- What the first byte of a character says: a whole character, a longer one, or nothing. -/
inductive Lead where
  /-- A character of one byte. -/
  | single (c : Char)
  /-- The start of a longer character. -/
  | more (p : Partial)
  /-- No character starts like this. -/
  | bad

/-- Reads the first byte of a character at a place. -/
def lead (start b : Nat) : Lead :=
  if b < 0x80 then .single (Char.ofNat b)
  else if b < 0xC2 then .bad
  else if b < 0xE0 then .more ⟨start, 1, 0, b - 0xC0, 0x80, 0xBF⟩
  else if b = 0xE0 then .more ⟨start, 1, 1, 0, 0xA0, 0xBF⟩
  else if b = 0xED then .more ⟨start, 1, 1, 0xD, 0x80, 0x9F⟩
  else if b < 0xF0 then .more ⟨start, 1, 1, b - 0xE0, 0x80, 0xBF⟩
  else if b = 0xF0 then .more ⟨start, 1, 2, 0, 0x90, 0xBF⟩
  else if b < 0xF4 then .more ⟨start, 1, 2, b - 0xF0, 0x80, 0xBF⟩
  else if b = 0xF4 then .more ⟨start, 1, 2, 4, 0x80, 0x8F⟩
  else .bad

/-- Reads on at byte number `index`. `acc` holds the characters read so far, the newest first. -/
def decodeFrom (acc : List Char) : (index : Nat) → Option Partial → List UInt8 →
    Except Fault (List Char)
  | _, none, [] => .ok acc.reverse
  | _, some p, [] => .error (.incomplete p.start)
  | index, none, b :: rest =>
    match lead index b.toNat with
    | .single c => decodeFrom (c :: acc) (index + 1) none rest
    | .more p => decodeFrom acc (index + 1) (some p) rest
    | .bad => .error (.invalid 1 index)
  | index, some p, b :: rest =>
    let n := b.toNat
    if p.lo ≤ n ∧ n ≤ p.hi then
      let bits := p.bits * 64 + (n - 0x80)
      if p.due = 0 then decodeFrom (Char.ofNat bits :: acc) (index + 1) none rest
      else
        decodeFrom acc (index + 1) (some ⟨p.start, p.length + 1, p.due - 1, bits, 0x80, 0xBF⟩) rest
    else .error (.invalid p.length p.start)

/-- The text that some bytes stand for. -/
def decode (bytes : List UInt8) : Except Fault String :=
  (decodeFrom [] 0 none bytes).map String.ofList

end LiveMap.Text.Utf8
