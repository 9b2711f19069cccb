/-!
# Instants

When something happens while lookups wait for each other: a time in milliseconds and, at one time, a
round. Work that takes no time still takes turns, so what is started by finished work comes a round
later than that work. Instants are relative to a start and are ordered by time, then by round.
-/

namespace TokenRisk

/-- A moment relative to a start: a `time` in milliseconds and, at that time, a `round`. -/
structure Instant where
  time : Rat := 0
  round : Nat := 0
  deriving DecidableEq

namespace Instant

/-- The start. -/
def zero : Instant := {}

/-- A number of rounds that take no time. -/
def rounds (n : Nat) : Instant := { round := n }

/-- The moment `j` after `i`, when `j` counts from `i`. Rounds count within one time. -/
def after (i j : Instant) : Instant :=
  if j.time = 0 then ⟨i.time, i.round + j.round⟩ else ⟨i.time + j.time, j.round⟩

/-- The moment `j` counted from `i`, when it is no earlier; `after` counts it back. -/
def since (j i : Instant) : Instant :=
  if j.time = i.time then ⟨0, j.round - i.round⟩ else ⟨j.time - i.time, j.round⟩

/-- The order of instants: by `time`, then by `round`. -/
def ble (i j : Instant) : Bool :=
  i.time < j.time || (i.time == j.time && i.round ≤ j.round)

/-- Whether `i` is strictly before `j`, which is the negation of `ble`. -/
def blt (i j : Instant) : Bool :=
  !ble j i

/-- The later of two instants by `ble`. -/
def later (i j : Instant) : Instant :=
  if ble i j then j else i

/-- The latest of a list of instants, the start if there is none. -/
def latest (l : List Instant) : Instant :=
  l.foldl later zero

/-- The moment so many milliseconds after the start, which is the start itself for fewer than
none. -/
def ofMilliseconds (ms : Rat) : Instant :=
  { time := if 0 ≤ ms then ms else 0 }

/-- When a wait of so many milliseconds ends: a wait of none goes on at once, any other in a later
round. -/
def ofWait (ms : Rat) : Instant :=
  if ms = 0 then zero else if ms < 0 then rounds 1 else ⟨ms, 1⟩

/-- `after zero` leaves a moment where it is. -/
@[simp] theorem after_zero (i : Instant) : i.after zero = i := by
  cases i; simp [after, zero]

end Instant

end TokenRisk
