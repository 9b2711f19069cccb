import TokenRisk.Proofs.Refinement
import TokenRisk.Proofs.Session

/-!
# Turns

Requests that are answered side by side take turns: one begins, another one completes, and between
two turns of a request any others may have theirs. A turn is done at once. So whatever happens to a
session is a list of turns, in the order in which they are taken (`Session.exists_turns_run`), and
what it does to the cache is a list of operations (`Session.cache_take`).
-/

namespace TokenRisk

/-- What a verifier does at once. -/
inductive Turn where
  | begin (r : Request)
  | complete (r : Request) (work : Work)
  | clear
  | stats

/-- A turn that is taken by the verifier of its moment. -/
structure Step where
  verifier : Verifier
  turn : Turn

namespace Step

/-- Takes the turn `x.turn`. -/
def take (x : Step) (s : Session) : Session :=
  match x.turn with
  | .begin r => (x.verifier.begin r s).2
  | .complete r work => (x.verifier.complete r work s).2
  | .clear => s.clear
  | .stats => (s.stats x.verifier.clock).2

/-- What `x.turn` asks of the cache, if anything. -/
def operation? (x : Step) : Option (Cache.Operation String Verification) :=
  match x.turn with
  | .begin r => some (.get (x.verifier.keyOf r))
  | .complete r (.ok (answer, outcome)) =>
    if outcome.isSettled then some (.put (x.verifier.keyOf r) answer) else none
  | .complete _ (.error _) => none
  | .clear => some .clear
  | .stats => some .stats

end Step

namespace Session

/-- Takes `steps` in order. -/
def take (s : Session) (steps : List Step) : Session :=
  steps.foldl (fun s x => x.take s) s

/-- What `steps` ask of the cache, and when. -/
def operations (steps : List Step) : List (Binary64 × Cache.Operation String Verification) :=
  steps.filterMap fun x => x.operation?.map fun operation => (x.verifier.clock, operation)

@[simp] theorem take_cons (s : Session) (x : Step) (steps : List Step) :
    s.take (x :: steps) = (x.take s).take steps := rfl

@[simp] theorem take_append (s : Session) (steps later : List Step) :
    s.take (steps ++ later) = (s.take steps).take later :=
  List.foldl_append

/-- `s` is turned into `s'` by turns of `v`. -/
private def Reaches (v : Verifier) (s s' : Session) : Prop :=
  ∃ steps : List Step, (∀ x ∈ steps, x.verifier = v) ∧ s' = s.take steps

private theorem Reaches.refl (v : Verifier) (s : Session) : Reaches v s s :=
  ⟨[], by simp, rfl⟩

private theorem Reaches.trans {v : Verifier} {s s' s'' : Session} (h : Reaches v s s')
    (h' : Reaches v s' s'') : Reaches v s s'' := by
  obtain ⟨steps, hsteps, rfl⟩ := h
  obtain ⟨steps', hsteps', rfl⟩ := h'
  refine ⟨steps ++ steps', fun x hx => ?_, by simp⟩
  rcases List.mem_append.mp hx with hx | hx
  · exact hsteps x hx
  · exact hsteps' x hx

private theorem reaches_take (v : Verifier) (turn : Turn) (s : Session) :
    Reaches v s ((⟨v, turn⟩ : Step).take s) :=
  ⟨[⟨v, turn⟩], by simp, rfl⟩

private theorem reaches_begin (v : Verifier) (r : Request) (s s' : Session) (begun : Verifier.Begun)
    (h : v.begin r s = (begun, s')) : Reaches v s s' := by
  have hreach := reaches_take v (.begin r) s
  simpa only [Step.take, h] using hreach

private theorem reaches_complete (v : Verifier) (r : Request) (work : Work) (s : Session) :
    Reaches v s (v.complete r work s).2 :=
  reaches_take v (.complete r work) s

private theorem reaches_verify (v : Verifier) (r : Request) (s : Session) :
    Reaches v s (v.verify r s).2 := by
  simp only [Verifier.verify]
  split
  · rename_i hbegin
    exact reaches_begin v r s _ _ hbegin
  · rename_i hbegin
    exact (reaches_begin v r s _ _ hbegin).trans (reaches_complete v r _ _)

private theorem reaches_cancelAt (v : Verifier) (moment : Instant) (r : Request) (s : Session) :
    Reaches v s (v.cancelAt moment r s).2 := by
  simp only [Verifier.cancelAt]
  split
  · rename_i hbegin
    exact reaches_begin v r s _ _ hbegin
  · rename_i hbegin
    split
    · exact (reaches_begin v r s _ _ hbegin).trans (reaches_complete v r _ _)
    · exact reaches_begin v r s _ _ hbegin

/-- `verifyAll` takes turns: its requests begin in order, and complete in the order in which their
work ends. -/
private theorem reaches_verifyAll (v : Verifier) (rs : List Request) (s : Session) :
    Reaches v s (v.verifyAll rs s).2 := by
  have hbegun : Reaches v s (v.beginAll rs s).session := by
    -- The first pass begins each request, and completes what takes no time.
    refine List.foldlRecOn (motive := fun p : Verifier.Progress => Reaches v s p.session) _ _
      (.refl v s) ?_
    intro p hp x _
    obtain ⟨r, place⟩ := x
    simp only []
    split
    · rename_i hbegin
      exact hp.trans (reaches_begin v r p.session _ _ hbegin)
    · rename_i hbegin
      split
      · exact (hp.trans (reaches_begin v r p.session _ _ hbegin)).trans (reaches_complete v r _ _)
      · exact hp.trans (reaches_begin v r p.session _ _ hbegin)
  -- The second pass completes what is pending, up to the first answer that is refused.
  refine List.foldlRecOn (motive := fun p : Verifier.Progress => Reaches v s p.session) _ _
    hbegun ?_
  intro p hp w _
  split
  · exact hp
  · exact hp.trans (reaches_complete v w.request _ _)

private theorem reaches_perform (v : Verifier) (action : Action) (s : Session) :
    Reaches v s (v.perform action s).2 := by
  cases action with
  | verify r => exact reaches_verify v r s
  | quick address chainId => exact reaches_verify v _ s
  | deep address chainIds => exact reaches_verify v _ s
  | batch rs => exact reaches_verifyAll v rs s
  | cancel moment r => exact reaches_cancelAt v moment r s
  | clear => exact reaches_take v .clear s
  | stats => exact reaches_take v .stats s

/-- Every `Session.run` consists of turns of the verifiers of its events. -/
theorem exists_turns_run (es : List Event) (s : Session) :
    ∃ steps : List Step, (s.run es).2 = s.take steps ∧
      ∀ x ∈ steps, ∃ e ∈ es, x.verifier = e.verifier := by
  induction es generalizing s with
  | nil => exact ⟨[], rfl, by simp⟩
  | cons e es ih =>
    -- The turns of the first event lead to where the others start.
    obtain ⟨steps, hsteps, htake⟩ := reaches_perform e.verifier e.action s
    obtain ⟨later, hlater, hof⟩ := ih (e.verifier.perform e.action s).2
    refine ⟨steps ++ later, ?_, fun x hx => ?_⟩
    · rw [take_append, ← htake]
      exact hlater
    · rcases List.mem_append.mp hx with hx | hx
      · exact ⟨e, List.mem_cons_self, hsteps x hx⟩
      · obtain ⟨e', he', hverifier⟩ := hof x hx
        exact ⟨e', List.mem_cons_of_mem _ he', hverifier⟩

end Session

end TokenRisk
