import LiveMap.Random.Basic

/-!
# A tape of given words

A fixed list of 64-bit words that is read over and over, for runs in which the draws are laid down
in advance.
-/

namespace LiveMap

/-- A list of words, read from `rest` on and started over from `all` at its end. -/
structure Tape where
  /-- The whole tape. -/
  all : List UInt64
  /-- The words up to the next start. -/
  rest : List UInt64

namespace Tape

/-- The tape at its start. -/
def ofList (words : List UInt64) : Tape := ⟨words, words⟩

/-- The next word. An empty tape reads as zeros. -/
def next64 (t : Tape) : UInt64 × Tape :=
  match t.rest, t.all with
  | w :: rest, _ => (w, { t with rest })
  | [], w :: rest => (w, { t with rest })
  | [], [] => (0, t)

/-- The low half of the next word. -/
def next32 (t : Tape) : UInt32 × Tape :=
  let (w, t) := t.next64
  (w.toUInt32, t)

instance : WordSource Tape := ⟨next32, next64⟩

end Tape

end LiveMap
