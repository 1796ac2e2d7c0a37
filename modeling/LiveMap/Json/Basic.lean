import LiveMap.Json.Number
import LiveMap.Keyed

/-!
# JSON values

A value keeps the members of its objects in the order in which they are written. Values that were
read, and results, keep them in ascending order of the keys; `canonical` brings them into that
order.
-/

namespace LiveMap

/-- A JSON value. -/
inductive Json where
  /-- No value. -/
  | null
  /-- A truth value. -/
  | bool (b : Bool)
  /-- A number. -/
  | num (n : Json.Number)
  /-- A text. -/
  | str (s : String)
  /-- A sequence. -/
  | arr (items : List Json)
  /-- Named members. -/
  | obj (members : List (String × Json))

namespace Json

instance : Inhabited Json := ⟨null⟩

mutual

/-- Equality of values whose members are in the same order. -/
def beq : Json → Json → Bool
  | null, null => true
  | bool a, bool b => a == b
  | num a, num b => a == b
  | str a, str b => a == b
  | arr a, arr b => beqItems a b
  | obj a, obj b => beqMembers a b
  | _, _ => false

/-- Equality of sequences. -/
def beqItems : List Json → List Json → Bool
  | [], [] => true
  | a :: as, b :: bs => beq a b && beqItems as bs
  | _, _ => false

/-- Equality of members. -/
def beqMembers : List (String × Json) → List (String × Json) → Bool
  | [], [] => true
  | (k, a) :: as, (l, b) :: bs => k == l && beq a b && beqMembers as bs
  | _, _ => false

end

instance : BEq Json := ⟨beq⟩

/-- The value of a finite double; there is no other way to write NaN and the infinities than as
null. -/
def ofFloat (x : Float) : Json := if x.isFinite then num (.float x) else null

/-- Members in ascending order of their keys; of several with one key the last one counts. -/
def sortMembers (members : List (String × Json)) : List (String × Json) :=
  members.foldl (fun table (k, v) => Keyed.insert k v table) []

mutual

/-- The value with the members of all its objects in ascending order. -/
def canonical : Json → Json
  | arr items => arr (canonicalItems items)
  | obj members => obj (sortMembers (canonicalMembers members))
  | v => v

/-- Brings every item into order. -/
def canonicalItems : List Json → List Json
  | [] => []
  | v :: rest => canonical v :: canonicalItems rest

/-- Brings the value of every member into order. -/
def canonicalMembers : List (String × Json) → List (String × Json)
  | [] => []
  | (k, v) :: rest => (k, canonical v) :: canonicalMembers rest

end

/-- The member of an object under a key. -/
def member? (key : String) : Json → Option Json
  | obj members => Keyed.find? key members
  | _ => none

end Json

end LiveMap
