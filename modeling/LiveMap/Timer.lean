/-!
# Periodic timers

A timer goes off at its deadline and then once in every period. It may be looked at late. If it is
late by a few milliseconds at most, it keeps its pace and goes off at once for every deadline that
has passed; if it is later than that, it goes off once, and its next deadline is one full period
away.
-/

namespace LiveMap

/-- A timer that goes off again and again. Times are in milliseconds. -/
structure Timer where
  /-- When it is due. -/
  deadline : Nat
  /-- From one deadline to the next. -/
  period : Nat
  /-- Time passes from one deadline to the next. -/
  period_pos : 0 < period

namespace Timer

/-- The shortest period. -/
def shortestPeriod : Nat := 1

/-- A timer with a deadline and a period. A period that is too short becomes the shortest one. -/
def ofPeriod (deadline period : Nat) : Timer where
  deadline := deadline
  period := max period shortestPeriod
  period_pos := Nat.lt_of_lt_of_le Nat.zero_lt_one (Nat.le_max_right period shortestPeriod)

/-- The greatest lateness that does not disturb the pace. -/
def lateness : Nat := 5

/-- Whether the pace is disturbed when the timer is looked at now. -/
def isLate (t : Timer) (now : Nat) : Bool := t.deadline + lateness < now

/-- How often the timer goes off when it is looked at now. -/
def firings (t : Timer) (now : Nat) : Nat :=
  if now < t.deadline then 0
  else if t.isLate now then 1
  else (now - t.deadline) / t.period + 1

/-- The timer after it has been looked at now. -/
def after (t : Timer) (now : Nat) : Timer :=
  { t with
    deadline :=
      if t.isLate now then now + t.period else t.deadline + t.firings now * t.period }

end Timer

end LiveMap
