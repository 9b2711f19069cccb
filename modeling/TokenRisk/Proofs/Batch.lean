import TokenRisk.Proofs.Answering
import TokenRisk.Proofs.Resurvey

/-!
# Batches and single requests

The requests of a batch share one memory, in which any of them may find what another one left there.
If none of them is kept under the key of another, that makes no difference: each is answered, in its
place, as it is by itself where nothing is remembered.

## Key results

- `unnamed_of_answered`: an answer is the fresh one under some identifier, if those that are kept
  for it are
- `verifyAll_of_alike`: a batch brings the fresh answers if requests under one key have the same
- `verifyAll_eq_alone`: a batch brings the answers that its requests get by themselves
-/

namespace TokenRisk

/-- An answer without its identifier. -/
def Verification.unnamed (a : Verification) : Verification :=
  { a with requestId := "" }

/-- Answers that are the same when `unnamed` are the same under one identifier. -/
theorem Verification.eq_of_unnamed {a b : Verification} (h : a.unnamed = b.unnamed) :
    a = { b with requestId := a.requestId } :=
  congrArg (fun x : Verification => { x with requestId := a.requestId }) h

namespace Verifier

variable (v : Verifier)

/-! ## One request -/

/-- What a request is answered with where nothing is remembered, `unnamed`. -/
def freshAnswer (r : Request) : Verification :=
  match (v.work "" r).value with
  | .ok (a, _) => a
  | .error f => v.failedAnswer "" r f.description

/-- Under another identifier `work` is the same but for that identifier. -/
theorem work_renamed (id id' : String) (r : Request) : v.work id' r =
    (v.work id r).map (Except.map fun x => ({ x.1 with requestId := id' }, x.2)) := by
  have hanswer (o : Outcome) (survey : Option Survey) :
      { v.answer id r o survey with requestId := id' } = v.answer id' r o survey := rfl
  simp only [work]
  -- The identifier is only in the answer, not in the analysis that it is made of.
  split
  · generalize v.analyzeWithSurvey r (r.chainOr v.defaultChainId) = x
    rw [Timed.map_map]
    refine Timed.map_congr x _ _ ?_
    cases x.value with
    | error f => rfl
    | ok y => simp only [Except.map, hanswer]
  · generalize v.analyze r.tokenAddress (r.chainOr v.defaultChainId) = x
    rw [Timed.map_map]
    refine Timed.map_congr x _ _ ?_
    cases x.value with
    | error f => rfl
    | ok o => simp only [Except.map, hanswer]

/-- `work` comes to the `freshAnswer` under its identifier. -/
theorem unnamed_of_work (id : String) (r : Request) (a : Verification) (o : Outcome)
    (h : (v.work id r).value = .ok (a, o)) : a.unnamed = v.freshAnswer r := by
  have hvalue := congrArg Timed.value (v.work_renamed id "" r)
  rw [Timed.value_map, h] at hvalue
  rw [freshAnswer, hvalue]
  rfl

/-- The `failedAnswer` to work that failed is the `freshAnswer` under some identifier. -/
theorem unnamed_of_failed (id id' : String) (r : Request) (f : Failure)
    (h : (v.work id r).value = .error f) :
    (v.failedAnswer id' r f.description).unnamed = v.freshAnswer r := by
  have hvalue := congrArg Timed.value (v.work_renamed id "" r)
  rw [Timed.value_map, h] at hvalue
  rw [freshAnswer, hvalue]
  rfl

/-- An answer is the `freshAnswer` under some identifier, if the answers are that are kept for
it. -/
theorem unnamed_of_answered {P : String → Verification → Prop} (r : Request) (a : Verification)
    (h : v.Answered P r a) (hkept : ∀ b, P (v.keyOf r) b → b.unnamed = v.freshAnswer r) :
    a.unnamed = v.freshAnswer r := by
  cases h with
  | kept id b hb => exact hkept b hb
  | worked id _ o hwork => exact v.unnamed_of_work id r a o hwork
  | failed id id' f hwork => exact v.unnamed_of_failed id id' r f hwork

/-! ## Many requests -/

/-- What is kept under the key of one of some requests is the `freshAnswer` to it. -/
def IsFreshFor (rs : List Request) (key : String) (a : Verification) : Prop :=
  ∀ r ∈ rs, v.keyOf r = key → a.unnamed = v.freshAnswer r

/-- Requests under one key have the same `freshAnswer`. -/
def AreAlike (rs : List Request) : Prop :=
  ∀ r ∈ rs, ∀ r' ∈ rs, v.keyOf r = v.keyOf r' → v.freshAnswer r = v.freshAnswer r'

/-- What is worked out for requests that `AreAlike` may be kept for all of them. -/
theorem upholds_isFreshFor (rs : List Request) (halike : v.AreAlike rs) (r : Request)
    (hr : r ∈ rs) : v.Upholds (v.IsFreshFor rs) r := by
  intro id a o hwork _ r' hr' hkey
  rw [v.unnamed_of_work id r a o hwork, halike r' hr' r hr hkey]

/-- Where nothing is remembered, `verify` brings the `freshAnswer`. -/
theorem verify_eq_fresh (r : Request) (s : Session) (hfresh : s.IsFresh) (hroom : s.CanStore) :
    ∃ a, (v.verify r s).1.value = .ok a ∧ a.unnamed = v.freshAnswer r := by
  have halike : v.AreAlike [r] := by
    intro r₁ h₁ r₂ h₂ _
    rw [List.mem_singleton.mp h₁, List.mem_singleton.mp h₂]
  have hr : r ∈ [r] := List.mem_singleton_self r
  obtain ⟨a, ha⟩ := v.verify_of_canStore r s hroom
  have hanswered := (v.verify_spec r s hfresh.keeps fun _ =>
    v.upholds_isFreshFor [r] halike r hr).2 a ha
  exact ⟨a, ha, v.unnamed_of_answered r a hanswered fun b hb => hb r hr rfl⟩

/-- Where nothing is remembered, `verifyAll` on requests that are alike brings the `freshAnswer` to
each of them, in its place. -/
theorem verifyAll_of_alike (rs : List Request) (s : Session) (halike : v.AreAlike rs)
    (hfresh : s.IsFresh) (hroom : s.CanStore) :
    ∃ answers, (v.verifyAll rs s).1.value = .ok answers ∧ answers.length = rs.length ∧
      ∀ (i : Nat) (r : Request) (a : Verification), rs[i]? = some r → answers[i]? = some a →
        a.unnamed = v.freshAnswer r := by
  obtain ⟨answers, hvalue, hlen⟩ := v.verifyAll_of_canStore rs s hroom
  refine ⟨answers, hvalue, hlen, fun i r a hr ha => ?_⟩
  -- An answer may have been kept for another request of the batch, but then that is answered alike.
  obtain ⟨r', hr', hanswered⟩ := (v.verifyAll_spec rs s hfresh.keeps
    fun _ => v.upholds_isFreshFor rs halike).2 answers hvalue i a ha
  obtain rfl : r = r' := Option.some.inj (hr.symm.trans hr')
  exact v.unnamed_of_answered r a hanswered fun b hb => hb r (List.mem_of_getElem? hr) rfl

/-- Requests with different keys `AreAlike`. -/
theorem areAlike_of_nodup (rs : List Request) (hkeys : (rs.map v.keyOf).Nodup) :
    v.AreAlike rs := by
  intro r hr r' hr' hkey
  -- Requests with one key stand in one place, so they are one request.
  obtain ⟨i, hi⟩ := List.mem_iff_getElem?.mp hr
  obtain ⟨j, hj⟩ := List.mem_iff_getElem?.mp hr'
  have hlt : i < (rs.map v.keyOf).length := by
    rw [List.length_map]
    exact (List.getElem?_eq_some_iff.mp hi).1
  have hsame : (rs.map v.keyOf)[i]? = (rs.map v.keyOf)[j]? := by
    rw [List.getElem?_map, List.getElem?_map, hi, hj, Option.map_some, Option.map_some, hkey]
  obtain rfl : i = j := (List.getElem?_inj hlt hkeys).mp hsame
  rw [Option.some.inj (hi.symm.trans hj)]

/-- Where nothing is remembered, `verifyAll` on requests with different keys, of which none waits
for ever for a slot, brings one answer for each, in its place: up to the identifier the one that
`verify` brings by itself from any session that remembers nothing. -/
theorem verifyAll_eq_alone (rs : List Request) (s : Session) (hkeys : (rs.map v.keyOf).Nodup)
    (_hslots : ∀ r ∈ rs, ¬ v.IsStuck r)
    (hfresh : s.IsFresh) (hroom : s.CanStore) :
    ∃ answers, (v.verifyAll rs s).1.value = .ok answers ∧ answers.length = rs.length ∧
      ∀ (i : Nat) (r : Request) (a : Verification), rs[i]? = some r → answers[i]? = some a →
        ∀ t : Session, t.IsFresh → t.CanStore →
          ∃ b, (v.verify r t).1.value = .ok b ∧ a = { b with requestId := a.requestId } := by
  obtain ⟨answers, hvalue, hlen, hanswers⟩ :=
    v.verifyAll_of_alike rs s (v.areAlike_of_nodup rs hkeys) hfresh hroom
  refine ⟨answers, hvalue, hlen, fun i r a hr ha t htfresh htroom => ?_⟩
  obtain ⟨b, hb, hfreshAnswer⟩ := v.verify_eq_fresh r t htfresh htroom
  exact ⟨b, hb, Verification.eq_of_unnamed ((hanswers i r a hr ha).trans hfreshAnswer.symm)⟩

end Verifier

/-- `Request.plain` is verified on its chain and surveyed on two, once in a batch with a memory and
once each request by itself without one. -/
theorem Scene.plain_alone_and_surveyed :
    let v := (Scene.plain (.ok []) 0).verifier
    let rs := [Request.plain, .onChains [1, 56]]
    ∃ answers, (v.verifyAll rs .hourly).1.value = .ok answers ∧ answers.length = 2 ∧
      ∀ (i : Nat) (r : Request) (a : Verification), rs[i]? = some r → answers[i]? = some a →
        ∃ b, (v.verify r {}).1.value = .ok b ∧ a = { b with requestId := a.requestId } := by
  intro v rs
  -- The keys differ, as only one of the requests is for a survey.
  have hkeys : (rs.map v.keyOf).Nodup := by
    rw [List.map_cons, List.map_cons, List.map_nil, List.nodup_cons, List.mem_singleton]
    refine ⟨fun hkey => ?_, List.nodup_cons.mpr ⟨List.not_mem_nil, List.nodup_nil⟩⟩
    exact absurd (Verifier.cacheKey_inj _ _ _ _ _ _ hkey).2.2 (by decide)
  have hroom : Session.hourly.CanStore := fun c hc => by
    rw [← Option.some.inj hc]
    decide
  obtain ⟨answers, hvalue, hlen, hanswers⟩ :=
    v.verifyAll_eq_alone rs .hourly hkeys (fun r _ hstuck => absurd hstuck.2.1 (by decide))
      Session.isFresh_hourly hroom
  exact ⟨answers, hvalue, hlen, fun i r a hr ha =>
    hanswers i r a hr ha {} Session.isFresh_default Session.canStore_default⟩

end TokenRisk
