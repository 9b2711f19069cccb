import TokenRisk.Proofs.Clock
import TokenRisk.Proofs.Session

/-!
# Answers without memory

A verifier that remembers nothing answers a request from the work on it alone. What it says is the
same at all times: `freshContent`. So answers that a memory hands out can be compared with it.
-/

namespace TokenRisk

/-- What the answer to a request that failed says. -/
def failedContent (message : String) : Content :=
  ({ isSafe := false
     canAutomate := false
     requiresApproval := false
     risks := [message]
     reason := "Verification failed: " ++ message }, none, none)

/-- What is said about the result of work without a memory. -/
def saidOf : Except Failure (Content × Outcome) → Content
  | .ok x => x.1
  | .error f => failedContent f.description

namespace Scene

variable (c : Scene)

/-- What an answer to a request says if nothing is remembered. -/
def freshContent (r : Request) : Content :=
  saidOf (workContent (c.verifier.work "" r).value)

/-- `work` says the same under any identifier and at any time. -/
theorem saidOf_work (ms : Int) (id : String) (r : Request) :
    saidOf (workContent ((c.atTime ms).verifier.work id r).value) = c.freshContent r :=
  congrArg saidOf (congrArg Timed.value (c.work_atTime ms id "" r))

/-- Requests for the same address on the same chain with the same targets have one
`freshContent`. -/
theorem freshContent_congr (r r' : Request) (haddress : r'.tokenAddress = r.tokenAddress)
    (hchain : c.chainOf r' = c.chainOf r) (hcross : r'.crossChain = r.crossChain)
    (htargets : Surveyor.targets r'.chainIds = Surveyor.targets r.chainIds) :
    c.freshContent r' = c.freshContent r :=
  congrArg saidOf (congrArg Timed.value
    (c.work_congr "" "" r r' haddress hchain hcross htargets))

/-- An answer of which `Answered` holds says the `freshContent`, or what a kept answer says. -/
theorem content_of_answered {P : String → Verification → Prop} (ms : Int) (r : Request)
    (a : Verification) (h : (c.atTime ms).verifier.Answered P r a) :
    a.content = c.freshContent r ∨
      ∃ b id, P ((c.atTime ms).verifier.keyOf r) b ∧ a = { b with requestId := id } := by
  cases h with
  | kept id b hb => exact .inr ⟨b, id, hb, rfl⟩
  | worked id _ o hwork =>
    left
    rw [← c.saidOf_work ms id r, hwork]
    rfl
  | failed id id' f hwork =>
    left
    rw [← c.saidOf_work ms id r, hwork]
    rfl

/-- Where nothing is remembered, `verify` answers a request, and at all times says its
`freshContent`. -/
theorem verify_of_isFresh (ms : Int) (r : Request) (s : Session) (hfresh : s.IsFresh)
    (hroom : s.CanStore) : ∃ b, ((c.atTime ms).verifier.verify r s).1.value = .ok b ∧
      b.content = c.freshContent r := by
  obtain ⟨id, s', _, hroom', hvalue, _⟩ := (c.atTime ms).verifier.verify_of_not_found r s
    ((c.atTime ms).verifier.lookUp_of_isFresh r s hfresh)
  have hsaid := c.saidOf_work ms id r
  -- Nothing is found, so the answer is that of the work.
  rw [hvalue]
  cases hwork : ((c.atTime ms).verifier.work id r).value with
  | error f =>
    rw [hwork] at hsaid
    -- What is not stored is handed out as well, and there is room for anything else.
    exact ⟨_, rfl, hsaid⟩
  | ok x =>
    rw [hwork] at hsaid
    exact ⟨x.1, (Verifier.complete_eq_ok_iff _ r x.1 x.1 x.2 s').mpr
      ⟨rfl, fun _ => hroom'.mpr hroom⟩, hsaid⟩

/-- Whatever `verify` answers in a session in which nothing is remembered, and in which there is
room, says the `freshContent`. -/
theorem content_of_isFresh (ms : Int) (r : Request) (s : Session) (hfresh : s.IsFresh)
    (hroom : s.CanStore) (b : Verification)
    (hb : ((c.atTime ms).verifier.verify r s).1.value = .ok b) : b.content = c.freshContent r := by
  obtain ⟨b', hb', hcontent⟩ := c.verify_of_isFresh ms r s hfresh hroom
  obtain rfl : b = b' := Except.ok.inj (hb.symm.trans hb')
  exact hcontent

/-- The events of a history of actions, each at a time. -/
def eventsOf (history : List (Int × Action)) : List Event :=
  history.map fun x => ⟨(c.atTime x.1).verifier, x.2⟩

/-- One of the actions begins a request. -/
def HasBegun (history : List (Int × Action)) (r : Request) : Prop :=
  ∃ x ∈ history, r ∈ (c.atTime x.1).verifier.begunBy x.2

/-- The `work` on a request comes to something that is kept. -/
def IsSettled (r : Request) : Prop :=
  ∃ x, (c.verifier.work "" r).value = .ok x ∧ x.2.isSettled = true

/-- Whether `work` is settled depends neither on the identifier nor on the time. -/
theorem isSettled_iff (ms : Int) (id : String) (r : Request) : c.IsSettled r ↔
    ∃ x, ((c.atTime ms).verifier.work id r).value = .ok x ∧ x.2.isSettled = true := by
  have hwork := congrArg Timed.value (c.work_atTime ms id "" r)
  simp only [Timed.value_map, workContent] at hwork
  simp only [IsSettled]
  cases h : ((c.atTime ms).verifier.work id r).value <;>
    cases h' : (c.verifier.work "" r).value <;> rw [h, h'] at hwork
  · simp
  · cases hwork
  · cases hwork
  · rename_i x x'
    have hbare := congrArg Outcome.isSettled (Prod.mk.inj (Except.ok.inj hwork)).2
    simp only [Outcome.isSettled_bare] at hbare
    simp [hbare]

/-- An answer of which `IsWorkedIn` holds says the `freshContent` of a request that the history
began and that is settled. -/
theorem content_of_isWorkedIn (history : List (Int × Action)) (key : String) (a : Verification)
    (h : IsWorkedIn (c.eventsOf history) key a) :
    ∃ r, c.HasBegun history r ∧ c.verifier.keyOf r = key ∧ c.IsSettled r ∧
      a.content = c.freshContent r := by
  obtain ⟨e, he, r, hr, hkey, id, o, hwork, hsettled⟩ := h
  obtain ⟨x, hx, rfl⟩ := List.mem_map.mp he
  have hsaid := c.saidOf_work x.1 id r
  rw [hwork] at hsaid
  exact ⟨r, ⟨x, hx, hr⟩, by rw [← hkey, keyOf_atTime],
    (c.isSettled_iff x.1 id r).mpr ⟨_, hwork, hsettled⟩, hsaid⟩

end Scene

end TokenRisk
