import TokenRisk.Verifier

/-!
# Histories

What happens to a verifier over time: one event after the other, each an action in the surroundings
of its moment. Sources and clock may change between two events; only the memory is carried on.
What every single event keeps holds after any history (`Session.run_invariant`).
-/

namespace TokenRisk

/-- What a `Verifier` can be asked to do. -/
inductive Action where
  | verify (r : Request)
  /-- Verifies an address on one chain, by `Verifier.quickRequest`. -/
  | quick (address : Option String) (chainId : Option Int)
  /-- Verifies an address across chains, by `Verifier.deepRequest`. -/
  | deep (address : Option String) (chainIds : Option (List Int))
  | batch (rs : List Request)
  /-- Begins a request and tells its work to stop at a moment, by `Verifier.cancelAt`. -/
  | cancel (moment : Instant) (r : Request)
  /-- Empties the cache, by `Session.clear`. -/
  | clear
  /-- Asks for the `Session.stats`. -/
  | stats

/-- What an `Action` came to. -/
inductive Effect where
  | answered (run : Timed Call (Except Failure (List Verification)))
  /-- Tells whether the request was cancelled. -/
  | cancelled (run : Timed Call (Except Failure Bool))
  | cleared
  | told (stats : Option (Cache.Stats String))

/-- The answers that an action brought. A cancelled request brings none. -/
def Effect.answers : Effect → List Verification
  | .answered run => run.value.toOption.getD []
  | _ => []

namespace Verifier

variable (v : Verifier)

/-- The requests that an `Action` wants answered, in order. -/
def requestsOf : Action → List Request
  | .verify r => [r]
  | .quick address chainId => [v.quickRequest address chainId]
  | .deep address chainIds => [v.deepRequest address chainIds]
  | .batch rs => rs
  | _ => []

/-- The `Effect` of `verify` on one request. -/
def answerOne (r : Request) (s : Session) : Effect × Session :=
  let (run, s) := v.verify r s
  (.answered (run.map fun answer => answer.map fun a => [a]), s)

/-- Does what an `Action` asks for. -/
def perform (action : Action) (s : Session) : Effect × Session :=
  match action with
  | .verify r => v.answerOne r s
  | .quick address chainId => v.answerOne (v.quickRequest address chainId) s
  | .deep address chainIds => v.answerOne (v.deepRequest address chainIds) s
  | .batch rs =>
    let (run, s) := v.verifyAll rs s
    (.answered run, s)
  | .cancel moment r =>
    let (run, s) := v.cancelAt moment r s
    (.cancelled run, s)
  | .clear => (.cleared, s.clear)
  | .stats =>
    let (stats, s) := s.stats v.clock
    (.told stats, s)

end Verifier

/-- An `Action` in the surroundings of its moment. -/
structure Event where
  verifier : Verifier
  action : Action

/-- Lets events happen one after the other. Only the `Session` is carried on. -/
def Session.run (s : Session) : List Event → List Effect × Session
  | [] => ([], s)
  | e :: es =>
    let (effect, s) := e.verifier.perform e.action s
    let (effects, s) := s.run es
    (effect :: effects, s)

namespace Session

/-- `run` does nothing without events. -/
@[simp] theorem run_nil (s : Session) : s.run [] = ([], s) := rfl

/-- `run` has an `Effect` for every event. -/
@[simp] theorem length_run (s : Session) (es : List Event) :
    (s.run es).1.length = es.length := by
  induction es generalizing s with
  | nil => rfl
  | cons e es ih => simp [run, ih]

/-- What `perform` keeps for every event is kept by a `run` of all of them. -/
theorem run_invariant (kept : Session → Prop) (es : List Event)
    (step : ∀ e ∈ es, ∀ s, kept s → kept (e.verifier.perform e.action s).2)
    (s : Session) (initial : kept s) : kept (s.run es).2 := by
  induction es generalizing s with
  | nil => exact initial
  | cons e es ih =>
    exact ih (fun e' he' => step e' (List.mem_cons_of_mem _ he')) _
      (step e List.mem_cons_self s initial)

/-- A `run` of later events starts from the session that the earlier ones left. -/
theorem run_append (s : Session) (es later : List Event) :
    s.run (es ++ later) =
      ((s.run es).1 ++ ((s.run es).2.run later).1, ((s.run es).2.run later).2) := by
  induction es generalizing s with
  | nil => simp
  | cons e es ih => simp [run, ih]

/-- The `Effect` of an event in a `run` is that of its action on what the events before it left
behind. -/
theorem getElem?_run (s : Session) (es : List Event) (i : Nat) :
    (s.run es).1[i]? =
      es[i]?.map fun e => (e.verifier.perform e.action (s.run (es.take i)).2).1 := by
  induction es generalizing s i with
  | nil => simp
  | cons e es ih =>
    cases i with
    | zero => rfl
    | succ i => simpa [run] using ih (e.verifier.perform e.action s).2 i

end Session

end TokenRisk
