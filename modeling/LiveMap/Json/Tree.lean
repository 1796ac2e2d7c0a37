import LiveMap.Json.Basic

/-!
# Syntax trees of JSON texts

A tree keeps what a text says in the order in which it says it, repeated keys included. Leaves may
be spoiled: a number beyond the doubles and a string with half a surrogate pair fit the grammar but
have no value. The mark of a spoiled leaf has a type of its own, so a reader that lets nothing
spoiled pass returns trees marked by the empty type, which are values.
-/

namespace LiveMap.Json

/-- A syntax tree whose spoiled leaves are marked by `ε`. -/
inductive Tree (ε : Type) where
  /-- No value. -/
  | null
  /-- A truth value. -/
  | bool (b : Bool)
  /-- A number, or the mark of one that is beyond the doubles. -/
  | num (n : Except ε Number)
  /-- A text, or the mark of one that is not well formed. -/
  | str (s : Except ε String)
  /-- A sequence. -/
  | arr (items : List (Tree ε))
  /-- Named members, repeated names included. -/
  | obj (members : List (Except ε String × Tree ε))

namespace Tree

variable {ε : Type}

mutual

/-- The value of a tree, or the first mark of a spoiled leaf. Of members with one key the last one
counts. -/
def toJson : Tree ε → Except ε Json
  | null => .ok .null
  | bool b => .ok (.bool b)
  | num n => n.map .num
  | str s => s.map .str
  | arr items => do return .arr (← itemsToJson items)
  | obj members => do return .obj (sortMembers (← membersToJson members))

/-- The values of a sequence of trees. -/
def itemsToJson : List (Tree ε) → Except ε (List Json)
  | [] => .ok []
  | t :: rest => do return (← toJson t) :: (← itemsToJson rest)

/-- The values of members. -/
def membersToJson : List (Except ε String × Tree ε) → Except ε (List (String × Json))
  | [] => .ok []
  | (k, t) :: rest => do
    let k ← k
    let v ← toJson t
    return (k, v) :: (← membersToJson rest)

end

mutual

/-- The greatest number of arrays and objects that stand inside each other. -/
def nesting : Tree ε → Nat
  | arr items => itemsNesting items + 1
  | obj members => membersNesting members + 1
  | _ => 0

/-- The greatest nesting of some trees. -/
def itemsNesting : List (Tree ε) → Nat
  | [] => 0
  | t :: rest => max (nesting t) (itemsNesting rest)

/-- The greatest nesting of the values of some members. -/
def membersNesting : List (Except ε String × Tree ε) → Nat
  | [] => 0
  | (_, t) :: rest => max (nesting t) (membersNesting rest)

end

/-- The value of a tree in which nothing can be spoiled. -/
def sound (t : Tree Empty) : Json :=
  match t.toJson with
  | .ok v => v
  | .error mark => nomatch mark

/-- The value of a tree, if no leaf is spoiled and no more than `limit` arrays and objects stand
inside each other. -/
def value? (limit : Nat) (t : Tree ε) : Option Json :=
  if t.nesting ≤ limit then t.toJson.toOption else none

end Tree

end LiveMap.Json
