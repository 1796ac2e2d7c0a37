import LiveMap.Geo
import LiveMap.Json.Reader

/-!
# Reading records straight from a text

A text can be read as a record without becoming a value first. Then what belongs to no field only
has to fit the grammar, and a field that is named twice is refused. The fields may also be listed in
order by an array.
-/

namespace LiveMap.Json.Tree

variable {ε : Type}

/-- Whether all keys of some members are well formed. -/
def keysSound (members : List (Except ε String × Tree ε)) : Bool :=
  members.all fun (key, _) => key.toOption.isSome

/-- The values of the members under a key, in order. -/
def valuesOf (name : String) (members : List (Except ε String × Tree ε)) : List (Tree ε) :=
  members.filterMap fun (key, t) => if key.toOption = some name then some t else none

/-- What the fields of these names are, each at most once. -/
def namedFields? (names : List String) (members : List (Except ε String × Tree ε)) :
    Option (List (Option (Tree ε))) :=
  if keysSound members then
    names.mapM fun name =>
      match valuesOf name members with
      | [] => some none
      | [t] => some (some t)
      | _ => none
  else none

/-- What the fields of these names are. An array lists them in order and may leave out the last
ones. -/
def fields? (names : List String) : Tree ε → Option (List (Option (Tree ε)))
  | obj members => namedFields? names members
  | arr items =>
    if items.length ≤ names.length then
      some (items.map some ++ List.replicate (names.length - items.length) none)
    else none
  | _ => none

/-- The text of a tree. -/
def text? : Tree ε → Option String
  | str s => s.toOption
  | _ => none

/-- The number of a tree. -/
def number? : Tree ε → Option Float
  | num n => n.toOption.map Number.toFloat
  | _ => none

/-- The integer of 64 bits with sign of a tree. -/
def integer? : Tree ε → Option Int
  | num (.ok (.int n)) => if n < Nat.pow 2 63 then some n else none
  | _ => none

/-- The pair of numbers of a tree. -/
def pair? : Tree ε → Option (LatLng Float)
  | arr [a, b] => do return ⟨← number? a, ← number? b⟩
  | _ => none

/-- A part that may be absent or null. -/
def optional? {α : Type} (read : Tree ε → Option α) : Option (Tree ε) → Option (Option α)
  | none => some none
  | some null => some none
  | some t => (read t).map some

end LiveMap.Json.Tree
