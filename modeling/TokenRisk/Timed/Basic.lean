import TokenRisk.Binary64.Basic
import TokenRisk.Timed.Instant

/-!
# Timed work

A piece of work that waits for others is described by when it ends, what it ends with and which
calls it makes when, all counted from its own start. So the description does not depend on when the
work is started, and work that runs side by side is combined from the descriptions of its parts.

Work may be told to stop before it ends. As a rule it is given up then: what waits for an answer is
cut off, and the cancellation goes outwards from there as a failure of its own kind, which no
handler of failures takes. But whoever waits for a task tells that task to stop and looks at it
again a round later. A task that is over by then counts with its result (`awaited`), and of two
tasks one may fail before the other has stopped, so that its failure is passed on in place of the
cancellation (`both`). In these rounds a cancellation gets lost. `Timed.outlasts` says when they
are.

What work comes to is followed through these rounds, but not how long it goes on once it is given
up. A lookup that is answered in the very round in which it is told to stop may be followed by
another one before the cancellation comes through. Two timers have to meet for that, and here work
that is given up takes no more time.
-/

namespace TokenRisk

/-- Work that makes calls of type `κ` and ends with a value of type `α`. -/
structure Timed (κ α : Type) where
  finish : Instant
  value : α
  calls : List (Instant × κ)
  /-- Whether the work may end with its `value` all the same, and at that very time, if it is told
  to stop in the round of an instant before its `finish`. What else is due in that round may come
  before it is told or after. -/
  outlasts : Instant → Bool := fun _ => false

namespace Timed

variable {κ α β ε : Type}

/-- Calls moved to a later start. -/
def shift (start : Instant) (calls : List (Instant × κ)) : List (Instant × κ) :=
  calls.map fun c => (start.after c.1, c.2)

/-- Work with another `value` at its end. -/
def map (f : α → β) (x : Timed κ α) : Timed κ β :=
  ⟨x.finish, f x.value, x.calls, x.outlasts⟩

/-- Work that is over at once and makes no calls. -/
protected def pure (a : α) : Timed κ α :=
  { finish := .zero, value := a, calls := [] }

/-- One piece of work after another. A cancellation that gets lost in the first piece does not
disturb the second, which must take no time for the whole to end where it was told to stop. -/
protected def bind (x : Timed κ α) (f : α → Timed κ β) : Timed κ β :=
  let y := f x.value
  { finish := x.finish.after y.finish
    value := y.value
    calls := x.calls ++ shift x.finish y.calls
    outlasts := fun told =>
      (x.outlasts told && y.finish.time == 0) ||
        (x.finish.ble told && y.outlasts (told.since x.finish)) }

/-- `Timed.bind` puts one piece of work after another. -/
instance : Monad (Timed κ) where
  pure := Timed.pure
  bind := Timed.bind

/-- A wait until an instant, which makes no calls. -/
def wait (i : Instant) : Timed κ Unit :=
  { finish := i, value := (), calls := [] }

/-- A call that is answered after a delay in milliseconds, as `Instant.ofWait` counts it. -/
def call (k : κ) (delay : Rat) (answer : α) : Timed κ α :=
  { finish := .ofWait delay, value := answer, calls := [(.zero, k)] }

/-- Work started in a task of its own, which gets its turn a round later. -/
def spawned (x : Timed κ α) : Timed κ α :=
  (wait (.rounds 1)).bind fun _ => x

/-- When work goes on that waits for tasks which end at the given instants: two rounds after the
`Instant.latest`. -/
def joinAt (finishes : List Instant) : Instant :=
  (Instant.latest finishes).after (.rounds 2)

/-- Pieces of work side by side, each `spawned` and none of which fails. Without any there is
nothing to wait for. Whoever waits is cancelled together with the tasks, even if all of them go on
to their ends. -/
def all (xs : List (Timed κ α)) : Timed κ (List α) :=
  let tasks := xs.map spawned
  { finish := if xs.isEmpty then .zero else joinAt (tasks.map finish)
    value := tasks.map value
    calls := tasks.flatMap calls }

/-- Whether the failure of one of two tasks is passed on in place of a cancellation: it `outlasts`
being told, or it has come but not yet been passed on while there is another task left to tell. -/
def passesOn (failing : Timed κ α) (other : Timed κ β) (told : Instant) : Bool :=
  failing.outlasts told ||
    (failing.finish.ble told && told.ble (failing.finish.after (.rounds 1)) &&
      told.ble other.finish)

/-- Two pieces of work side by side, each `spawned`, that may fail. The first failure ends the wait
for both; the other piece goes on by itself. -/
def both (x : Timed κ (Except ε α)) (y : Timed κ (Except ε β)) :
    Timed κ (Except ε (α × β)) :=
  let x := x.spawned
  let y := y.spawned
  let calls := x.calls ++ y.calls
  match x.value, y.value with
  | .ok a, .ok b => { finish := joinAt [x.finish, y.finish], value := .ok (a, b), calls }
  | .error e, .ok _ => ⟨joinAt [x.finish], .error e, calls, passesOn x y⟩
  | .ok _, .error e => ⟨joinAt [y.finish], .error e, calls, passesOn y x⟩
  | .error e, .error e' =>
    if y.finish.blt x.finish then ⟨joinAt [y.finish], .error e', calls, passesOn y x⟩
    else ⟨joinAt [x.finish], .error e, calls, passesOn x y⟩

/-- What is left of a task that is given up: it ends with another value, and of its calls those
remain that it made in time. -/
def givenUp (task : Timed κ α) (finish : Instant) (expired : α) (inTime : Instant → Bool) :
    Timed κ α :=
  { finish, value := expired, calls := task.calls.filter fun c => inTime c.1 }

/-- A task that is waited for to its end. Whoever waits and is told to stop looks at the task a
round later, and takes its result if it is over by then. -/
def awaited (task : Timed κ α) : Timed κ α where
  finish := task.finish.after (.rounds 2)
  value := task.value
  calls := task.calls
  outlasts told :=
    task.finish.ble (told.after (.rounds 1)) && told.ble (task.finish.after (.rounds 2))

/-- A task that was told to stop and is `awaited` all the same. Whoever waits does not look at it
again. -/
def handedOn (task : Timed κ α) : Timed κ α :=
  { task.awaited with outlasts := fun _ => false }

/-- A task under a positive limit in seconds. The timer of the limit is set before the task gets its
first turn, and so before any timer of the task. Of two timers for one moment the one that was set
first goes off first. So a task that takes as long as its limit is told to stop before it would go
on, and is late; but a task that `outlasts` this counts with its result. A limit that is no number
runs out in the round in which the task gets its first turn, and the task is told to stop between
the next two rounds, of which neither may then stand in its way. -/
def limited (limit : Binary64) (expired : α) (task : Timed κ α) : Timed κ α :=
  match limit with
  | .infinite _ => task.awaited
  | .finite limit =>
    let expiry := 1000 * limit.toRat
    if task.finish.time < expiry then task.awaited
    else if task.finish.time = expiry ∧ task.outlasts ⟨expiry, 0⟩ = true then task.handedOn
    else task.givenUp ⟨expiry, 4⟩ expired fun start => start.time < expiry
  | .nan =>
    if task.finish.ble (.rounds 1) then task.awaited
    else if task.outlasts (.rounds 2) = true ∧ task.outlasts (.rounds 3) = true then task.handedOn
    else task.givenUp (.rounds 5) expired fun start => start.ble (.rounds 2)

/-- Work under a limit in seconds. Without a limit it runs in place. A limit that is not positive
runs out before the work starts. Otherwise the work is `spawned`, and `limited` as a task. -/
def within (limit : Option Binary64) (expired : α) (x : Timed κ α) : Timed κ α :=
  match limit with
  | none => x
  | some limit =>
    if limit.le .zero then { finish := .rounds 3, value := expired, calls := [] }
    else limited limit expired x.spawned

/-- The calls in the order in which they start. -/
def sortedCalls (calls : List (Instant × κ)) : List (Instant × κ) :=
  calls.mergeSort fun a b => a.1.ble b.1

/-- The calls that have started before the work ends, as `sortedCalls`. Those of pieces that nobody
waits for any more may come later. -/
def callsMade (x : Timed κ α) : List κ :=
  (sortedCalls (x.calls.filter fun c => c.1.blt x.finish)).map (·.2)

/-- The time to the `finish` in whole milliseconds, a half to the even number. -/
def elapsed (x : Timed κ α) : Int :=
  roundQuotient x.finish.time.num.natAbs x.finish.time.den

end Timed

end TokenRisk
