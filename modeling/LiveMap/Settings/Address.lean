/-!
# Internet addresses

The two kinds of addresses and their texts. An address of four bytes is four decimal numbers with
points between them. An address of eight groups is written in hexadecimal; a double colon stands for
one or more groups of zero, and the last two groups may be written like an address of four bytes.
-/

namespace LiveMap

/-- An internet address. -/
inductive IpAddress where
  /-- Four bytes. -/
  | v4 (bytes : List Nat)
  /-- Eight groups of 16 bits. -/
  | v6 (groups : List Nat)
  deriving DecidableEq, Repr

namespace IpAddress

/-- The address of the machine itself. -/
def localhost : IpAddress := .v4 [127, 0, 0, 1]

/-! ## Reading -/

/-- The value of a digit in some base. -/
def digitValue? (base : Nat) (c : Char) : Option Nat :=
  let value? : Option Nat :=
    if c.isDigit then some (c.toNat - '0'.toNat)
    else if 'a' ≤ c ∧ c ≤ 'f' then some (c.toNat - 'a'.toNat + 10)
    else if 'A' ≤ c ∧ c ≤ 'F' then some (c.toNat - 'A'.toNat + 10)
    else none
  value?.filter (· < base)

/-- The digits at the start of a text, and the rest. -/
def takeDigits (base : Nat) : List Char → List Nat × List Char
  | [] => ([], [])
  | c :: rest =>
    match digitValue? base c with
    | some d =>
      let (ds, rest) := takeDigits base rest
      (d :: ds, rest)
    | none => ([], c :: rest)

/-- A number of at least one and at most `most` digits. -/
def number? (base most : Nat) (text : List Char) : Option (List Nat × Nat × List Char) :=
  let (ds, rest) := takeDigits base text
  if ds.isEmpty || most < ds.length then none
  else some (ds, ds.foldl (fun n d => n * base + d) 0, rest)

/-- A byte in decimal, without leading zeros. -/
def byte? (text : List Char) : Option (Nat × List Char) := do
  let (ds, n, rest) ← number? 10 3 text
  if n < 256 && (ds.length == 1 || ds.head? != some 0) then some (n, rest) else none

/-- A group in hexadecimal. -/
def group? (text : List Char) : Option (Nat × List Char) := do
  let (_, n, rest) ← number? 16 4 text
  return (n, rest)

/-- A given character. -/
def char? (c : Char) : List Char → Option (List Char)
  | [] => none
  | d :: rest => if d = c then some rest else none

/-- Four bytes with points between them. -/
def fourBytes? (text : List Char) : Option (List Nat × List Char) := do
  let (a, rest) ← byte? text
  let (b, rest) ← byte? (← char? '.' rest)
  let (c, rest) ← byte? (← char? '.' rest)
  let (d, rest) ← byte? (← char? '.' rest)
  return ([a, b, c, d], rest)

/-- The two groups that four bytes fill. -/
def groupsOfBytes : List Nat → List Nat
  | [a, b, c, d] => [a * 256 + b, c * 256 + d]
  | _ => []

/-- Groups read from a text. -/
structure Groups where
  /-- The groups. -/
  groups : List Nat
  /-- Whether the last two were written as four bytes. -/
  endsInBytes : Bool
  /-- What follows. -/
  rest : List Char

/-- Up to `most` groups with colons between them. The first of a text has no colon before it. Four
bytes may stand for two groups, and nothing follows them. -/
def groups : (most : Nat) → (isFirst : Bool) → List Char → Groups
  | 0, _, text => ⟨[], false, text⟩
  | most + 1, isFirst, text =>
    match (if isFirst then some text else char? ':' text) with
    | none => ⟨[], false, text⟩
    | some start =>
      match (if 0 < most then fourBytes? start else none) with
      | some (bytes, rest) => ⟨groupsOfBytes bytes, true, rest⟩
      | none =>
        match group? start with
        | none => ⟨[], false, text⟩
        | some (g, rest) =>
          let more := groups most false rest
          { more with groups := g :: more.groups }

/-- Eight groups, of which a double colon may leave out one or more of zero. -/
def eightGroups? (text : List Char) : Option (List Nat × List Char) := do
  let head := groups 8 true text
  let count := head.groups.length
  if count = 8 then return (head.groups, head.rest)
  else if head.endsInBytes then none
  else
    let rest ← char? ':' (← char? ':' head.rest)
    let tail := groups (7 - count) true rest
    let zeros := List.replicate (8 - count - tail.groups.length) 0
    return (head.groups ++ zeros ++ tail.groups, tail.rest)

/-- The address that a text stands for. -/
def parse? (text : String) : Option IpAddress :=
  match fourBytes? text.toList with
  | some (bytes, rest) => if rest.isEmpty then some (.v4 bytes) else none
  | none =>
    match eightGroups? text.toList with
    | some (gs, []) => some (.v6 gs)
    | _ => none

/-! ## Writing -/

/-- Texts with a separator between them. -/
def joined (separator : String) (parts : List String) : String := separator.intercalate parts

/-- Four bytes with points between them. -/
def bytesText (bytes : List Nat) : String := joined "." (bytes.map toString)

/-- Groups in hexadecimal with colons between them. -/
def groupsText (gs : List Nat) : String :=
  joined ":" (gs.map fun g => String.ofList (Nat.toDigits 16 g))

/-- The place and the length of the first of the longest runs of zeros. `run` is the length of the
run that ends before `index`. -/
def longestZeros (best : Nat × Nat) (run : Nat) : (index : Nat) → List Nat → Nat × Nat
  | _, [] => best
  | index, g :: rest =>
    if g = 0 then
      let run := run + 1
      longestZeros (if best.2 < run then (index + 1 - run, run) else best) run (index + 1) rest
    else longestZeros best 0 (index + 1) rest

/-- Eight groups; the first of the longest runs of two or more zeros is left out. -/
def shortGroupsText (gs : List Nat) : String :=
  let (start, length) := longestZeros (0, 0) 0 0 gs
  if 1 < length then groupsText (gs.take start) ++ "::" ++ groupsText (gs.drop (start + length))
  else groupsText gs

/-- The text of an address. Addresses of four bytes in the guise of eight groups show the bytes. -/
def text : IpAddress → String
  | v4 bytes => bytesText bytes
  | v6 [0, 0, 0, 0, 0, 0xFFFF, g, h] =>
    "::ffff:" ++ bytesText [g / 256, g % 256, h / 256, h % 256]
  | v6 gs => shortGroupsText gs

end IpAddress

end LiveMap
