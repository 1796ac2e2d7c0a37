/-!
# First-in first-out queues

A queue is a front to take from and a back to put on, the back in reverse, with its length at hand.
Putting takes one step, and taking one step on average. The view `toList` lists the items in the
order in which they will be taken, and each operation has one equation in terms of it.
-/

namespace LiveMap

/-- A first-in first-out queue. -/
structure Queue (α : Type) where
  /-- The items to be taken next, in order. -/
  front : List α
  /-- The items behind them, the newest first. -/
  back : List α
  /-- The number of items. -/
  size : Nat
  /-- The number of items is that of both parts. -/
  size_eq : size = front.length + back.length

namespace Queue

variable {α : Type}

/-- The queue without items. -/
def empty : Queue α := ⟨[], [], 0, rfl⟩

/-- The items, the next one to be taken first. -/
def toList (q : Queue α) : List α := q.front ++ q.back.reverse

/-- Puts an item at the end. -/
def push (q : Queue α) (a : α) : Queue α where
  front := q.front
  back := a :: q.back
  size := q.size + 1
  size_eq := by rw [q.size_eq, List.length_cons, Nat.add_assoc]

/-- Takes the first of `n` items, all of them in order. -/
def takeFirst : (items : List α) → (n : Nat) → n = items.length → Option (α × Queue α)
  | [], _, _ => none
  | a :: front, n, h => some (a, ⟨front, [], n - 1, by simp [h]⟩)

/-- Takes the first item, if there is one. An exhausted front is refilled from the back. -/
def pop? : Queue α → Option (α × Queue α)
  | ⟨a :: front, back, n, h⟩ => some (a, ⟨front, back, n - 1, by simp [h]⟩)
  | ⟨[], back, n, h⟩ => takeFirst back.reverse n (by simpa using h)

/-- The size is the number of items in the view. -/
theorem size_eq_length (q : Queue α) : q.size = q.toList.length := by
  simp [toList, q.size_eq]

@[simp] theorem toList_empty : (empty : Queue α).toList = [] := rfl

/-- A new item comes last. -/
@[simp] theorem toList_push (q : Queue α) (a : α) : (q.push a).toList = q.toList ++ [a] := by
  simp [toList, push]

/-- The item taken is the first one, and the others stay. -/
theorem eq_cons_of_takeFirst_eq_some {items : List α} {n : Nat} {h : n = items.length} {a : α}
    {r : Queue α} (e : takeFirst items n h = some (a, r)) : items = a :: r.toList := by
  cases items with
  | nil => simp [takeFirst] at e
  | cons b items =>
    simp only [takeFirst, Option.some.injEq, Prod.mk.injEq] at e
    obtain ⟨rfl, rfl⟩ := e
    simp [toList]

/-- Nothing can be taken exactly from no items. -/
theorem takeFirst_eq_none_iff {items : List α} {n : Nat} {h : n = items.length} :
    takeFirst items n h = none ↔ items = [] := by
  cases items <;> simp [takeFirst]

/-- What is taken from a queue is the first item of the view. -/
theorem toList_of_pop?_eq_some {q r : Queue α} {a : α} (h : q.pop? = some (a, r)) :
    q.toList = a :: r.toList := by
  obtain ⟨front, back, n, hn⟩ := q
  match front with
  | b :: front => cases h; simp [toList]
  | [] => simpa [toList] using eq_cons_of_takeFirst_eq_some h

/-- Nothing can be taken exactly from the queue without items. -/
theorem pop?_eq_none_iff {q : Queue α} : q.pop? = none ↔ q.toList = [] := by
  obtain ⟨front, back, n, hn⟩ := q
  match front with
  | b :: front => simp [pop?, toList]
  | [] => simp [pop?, toList, takeFirst_eq_none_iff]

end Queue

end LiveMap
