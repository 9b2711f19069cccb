import TokenRisk.Timed.Basic

/-!
# Slots

Work under a limit on how much of it runs at one time. The pieces are taken on in order; when all
slots are in use, the next piece starts as soon as one is given back, in the round after. Pieces
that take no time at all give their slot back before the next piece asks for one.
-/

namespace TokenRisk.Slots

/-- Inserts an instant into a rising list, after the instants that are not later. -/
def insertFree (i : Instant) : List Instant → List Instant
  | [] => [i]
  | j :: l => if j.ble i then j :: insertFree i l else i :: j :: l

/-- When a slot that is given back at `i` can be taken again: by a piece that waited for it in the
next round, at the very start by a piece that has not asked yet. -/
def reopened (i : Instant) : Instant :=
  if i = .zero then .zero else i.after (.rounds 1)

/-- The starts of pieces of work of the given durations. `free` holds, in rising order, when each
slot can be taken. Without slots nothing starts. -/
def starts (free : List Instant) : List Instant → List Instant
  | [] => []
  | duration :: rest =>
    match free with
    | [] => []
    | start :: free =>
      start :: starts (insertFree (reopened (start.after duration)) free) rest

/-- The `starts` with so many slots that are free at first. -/
def schedule (slots : Nat) (durations : List Instant) : List Instant :=
  starts (List.replicate (min slots durations.length) .zero) durations

/-- `insertFree` makes a list of free slots longer by one. -/
@[simp] theorem length_insertFree (i : Instant) (l : List Instant) :
    (insertFree i l).length = l.length + 1 := by
  induction l with
  | nil => rfl
  | cons j l ih => by_cases h : j.ble i <;> simp [insertFree, h, ih]

end TokenRisk.Slots
