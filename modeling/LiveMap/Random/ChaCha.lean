import LiveMap.Random.Basic

/-!
# A seeded stream of random words

The stream is the keystream of the ChaCha block function with twelve rounds, a 64-bit block counter
that starts at zero and a zero nonce, read as 32-bit words in order. The key is spread out of a
64-bit seed by a linear congruential generator whose outputs are permuted by a shift, an exclusive
or and a rotation.
-/

namespace LiveMap

namespace ChaCha

/-- The sixteen words of a block. -/
abbrev Block := Vector UInt32 16

/-- The bits of a word, moved left by `n` places around the word. -/
def rotateLeft (x : UInt32) (n : UInt32) : UInt32 :=
  (x <<< n) ||| (x >>> (32 - n))

/-- Mixes four words of a block. -/
def quarterRound (s : Block) (a b c d : Fin 16) : Block :=
  let s := s.set a (s[a] + s[b])
  let s := s.set d (rotateLeft (s[d] ^^^ s[a]) 16)
  let s := s.set c (s[c] + s[d])
  let s := s.set b (rotateLeft (s[b] ^^^ s[c]) 12)
  let s := s.set a (s[a] + s[b])
  let s := s.set d (rotateLeft (s[d] ^^^ s[a]) 8)
  let s := s.set c (s[c] + s[d])
  s.set b (rotateLeft (s[b] ^^^ s[c]) 7)

/-- Mixes the columns, then the diagonals. -/
def doubleRound (s : Block) : Block :=
  let s := quarterRound s 0 4 8 12
  let s := quarterRound s 1 5 9 13
  let s := quarterRound s 2 6 10 14
  let s := quarterRound s 3 7 11 15
  let s := quarterRound s 0 5 10 15
  let s := quarterRound s 1 6 11 12
  let s := quarterRound s 2 7 8 13
  quarterRound s 3 4 9 14

/-- The block before mixing: four constants, the key, the counter, a zero nonce. -/
def initialBlock (key : Vector UInt32 8) (counter : UInt64) : Block :=
  #v[0x61707865, 0x3320646e, 0x79622d32, 0x6b206574,
    key[0], key[1], key[2], key[3], key[4], key[5], key[6], key[7],
    counter.toUInt32, (counter >>> 32).toUInt32, 0, 0]

/-- The block of the keystream at this counter: six double rounds, then the sum with the start. -/
def block (key : Vector UInt32 8) (counter : UInt64) : Block :=
  let start := initialBlock key counter
  let mixed := (List.range 6).foldl (fun s _ => doubleRound s) start
  Vector.zipWith (· + ·) mixed start

end ChaCha

/-- A position in the keystream of a key. -/
structure ChaChaStream where
  /-- The key. -/
  key : Vector UInt32 8
  /-- The counter of the next block. -/
  counter : UInt64
  /-- The words of the current block that are still to be read. -/
  pending : List UInt32

namespace ChaChaStream

/-- The next step of the generator that spreads a seed. -/
def spread (state : UInt64) : UInt64 :=
  state * 6364136223846793005 + 11634580027462260723

/-- The output of the spreading generator in a state. -/
def permute (state : UInt64) : UInt32 :=
  let x := (((state >>> 18) ^^^ state) >>> 27).toUInt32
  let turn := (state >>> 59).toUInt32
  (x >>> turn) ||| (x <<< (32 - turn))

/-- The first eight outputs of the spreading generator. -/
def keyOfSeed (seed : UInt64) : Vector UInt32 8 :=
  Vector.ofFn fun i => permute ((List.range (i.val + 1)).foldl (fun s _ => spread s) seed)

/-- The start of the stream that a seed selects. -/
def ofSeed (seed : UInt64) : ChaChaStream :=
  { key := keyOfSeed seed, counter := 0, pending := [] }

/-- The next word of the keystream. -/
def next32 (s : ChaChaStream) : UInt32 × ChaChaStream :=
  match s.pending with
  | w :: rest => (w, { s with pending := rest })
  | [] =>
    let words := ChaCha.block s.key s.counter
    (words[0], { s with counter := s.counter + 1, pending := words.toList.tail })

/-- The next two words, the first as the low half. -/
def next64 (s : ChaChaStream) : UInt64 × ChaChaStream :=
  let (lo, s) := s.next32
  let (hi, s) := s.next32
  (lo.toUInt64 ||| (hi.toUInt64 <<< 32), s)

instance : WordSource ChaChaStream := ⟨next32, next64⟩

end ChaChaStream

end LiveMap
