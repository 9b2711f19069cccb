import TokenRisk.Proofs.Resurvey

/-!
# The request that an answer names

Work answers in the name of the request that it is done for, and a failure is reported in its name,
too. An answer that is recalled is handed out as it was kept, so it names the request that it was
worked out for. That request has the same key, which leaves open the letter case of the address,
whether the chain was spelled out, and the chains of a survey.

## Key results

- `request_of_answered`: an answer that is not recalled names its request
- `answers_name_requests`: an answer names its request, or a request under the same key that it was
  worked out for and is recalled from
-/

namespace TokenRisk

/-- A request that may be taken for another: it asks for the same address up to letter case, on the
same chain if one of them leaves the chain to the default, and like it for one or for several. -/
structure Request.PassesFor (r r' : Request) (defaultChainId : Int) : Prop where
  address : Text.lower r.addressText = Text.lower r'.addressText
  chain : r.chainOr defaultChainId = r'.chainOr defaultChainId
  crossChain : r.crossChain = r'.crossChain

/-- `PassesFor` holds of a request and itself. -/
theorem Request.PassesFor.rfl {r : Request} {defaultChainId : Int} :
    r.PassesFor r defaultChainId :=
  ⟨Eq.refl _, Eq.refl _, Eq.refl _⟩

/-- Two requests with one key under `keyOf` pass for each other. -/
theorem Request.passesFor_of_keyOf (v v' : Verifier) (r r' : Request)
    (hdefault : v.defaultChainId = v'.defaultChainId) (hkey : v.keyOf r = v'.keyOf r') :
    r.PassesFor r' v'.defaultChainId := by
  obtain ⟨haddress, hchain, hcross⟩ := Verifier.cacheKey_inj _ _ _ _ _ _ hkey
  exact ⟨haddress, hdefault ▸ hchain, hcross⟩

/-- An answer is recalled: in one of the events it was worked out for the request that it names, and
was to be kept under a key. -/
def Verification.IsRecalled (history : List Event) (key : String) (a : Verification) : Prop :=
  ∃ e ∈ history, a.request ∈ e.verifier.begunBy e.action ∧ e.verifier.keyOf a.request = key ∧
    ∃ id b o, (e.verifier.work id a.request).value = .ok (b, o) ∧ o.isSettled = true ∧
      a = { b with requestId := a.requestId }

namespace Verifier

variable (v : Verifier)

/-- `work` answers in the name of its request. -/
theorem request_of_work (id : String) (r : Request) (a : Verification) (o : Outcome)
    (h : (v.work id r).value = .ok (a, o)) : a.request = r := by
  simp only [work] at h
  split at h
  all_goals
    simp only [Timed.value_map, Except.map_eq_ok_iff] at h
    obtain ⟨_, _, hpair⟩ := h
    rw [← (Prod.mk.inj hpair).1]
    rfl

/-- What `Answered` says of an answer: it names its request, unless it is one that was kept. -/
theorem request_of_answered {P : String → Verification → Prop} (r : Request) (a : Verification)
    (h : v.Answered P r a) :
    a.request = r ∨ ∃ id b, P (v.keyOf r) b ∧ a = { b with requestId := id } := by
  cases h with
  | kept id b hb => exact .inr ⟨id, b, hb, rfl⟩
  | worked id _ o hwork => exact .inl (v.request_of_work id r a o hwork)
  | failed id id' f hwork => exact .inl rfl

/-- Where nothing is remembered, `verify` answers a request in its name. -/
theorem request_of_isFresh (r : Request) (s : Session) (hfresh : s.IsFresh) (a : Verification)
    (h : (v.verify r s).1.value = .ok a) : a.request = r := by
  -- What is kept under the key names the request, as nothing is kept.
  have hanswered := (v.verify_spec (P := fun key b => key = v.keyOf r → b.request = r) r s
    hfresh.keeps fun _ id b o hwork _ _ => v.request_of_work id r b o hwork).2 a h
  rcases v.request_of_answered r a hanswered with hrequest | ⟨_, b, hb, rfl⟩
  · exact hrequest
  · exact hb rfl

end Verifier

/-- An answer of which `IsWorkedIn` holds is recalled from the history under any identifier. -/
theorem isRecalled_of_isWorkedIn (history : List Event) (key id : String) (b : Verification)
    (h : IsWorkedIn history key b) :
    Verification.IsRecalled history key { b with requestId := id } := by
  obtain ⟨e, he, r, hr, hkey, id', o, hwork, hsettled⟩ := h
  have hrequest := e.verifier.request_of_work id' r b o hwork
  subst hrequest
  exact ⟨e, he, hr, hkey, id', b, o, hwork, hsettled, rfl⟩

/-- Whatever is done with a verifier whose memory is empty at first, every answer of `run` names the
request in the same place. Only where there is a cache it may be recalled instead, and then it names
the request that it was worked out for, which `PassesFor` the other one. -/
theorem answers_name_requests (es : List Event) (s : Session) (hfresh : s.IsFresh)
    (defaultChainId : Int) (hdefault : ∀ e ∈ es, e.verifier.defaultChainId = defaultChainId)
    (i j : Nat) (effect : Effect) (a : Verification)
    (heffect : (s.run es).1[i]? = some effect) (ha : effect.answers[j]? = some a) :
    ∃ e r, es[i]? = some e ∧ (e.verifier.requestsOf e.action)[j]? = some r ∧
      a.request.PassesFor r defaultChainId ∧
      (a.request = r ∨
        s.cache ≠ none ∧ a.IsRecalled (es.take (i + 1)) (e.verifier.keyOf r)) := by
  obtain ⟨e, he, r, hr, hanswered⟩ := answers_run_in_place es s hfresh i j effect a heffect ha
  refine ⟨e, r, he, hr, ?_⟩
  rcases e.verifier.request_of_answered r a hanswered with rfl | ⟨id, b, ⟨hcache, hworked⟩, rfl⟩
  · exact ⟨.rfl, .inl rfl⟩
  · -- A kept answer was worked out under the same key, and a key tells most of a request.
    have hrecalled := isRecalled_of_isWorkedIn _ _ id b hworked
    refine ⟨?_, .inr ⟨hcache, hrecalled⟩⟩
    obtain ⟨e', he', _, hkey, _⟩ := hrecalled
    have hsame := Request.passesFor_of_keyOf e'.verifier e.verifier _ r
      ((hdefault e' (List.mem_of_mem_take he')).trans (hdefault e (List.mem_of_getElem? he)).symm)
      hkey
    rwa [hdefault e (List.mem_of_getElem? he)] at hsame

/-- `Request.plain`, but with the chain left to the default. -/
def Request.plainByDefault : Request :=
  { plain with chainId := none }

namespace Scene

/-- The plain token is asked for twice, first on the default chain and then on the same chain by its
number. -/
def plainTwice : List Event :=
  [⟨(vacant .legacy 1).verifier, .verify .plainByDefault⟩,
    ⟨(vacant .legacy 1).verifier, .verify .plain⟩]

private theorem isSettled_plainByDefault : (vacant .legacy 1).IsSettled .plainByDefault := by
  obtain ⟨found, hcheck, _⟩ := Sources.check_plainAddress
  obtain ⟨o, _, hvalue, _, hsettled, _⟩ := analyze_vacant .legacy 1 (some Sources.plainAddress)
    ((vacant .legacy 1).chainOf .plainByDefault) found hcheck
  have hwork := (vacant .legacy 1).value_work_of_single "" .plainByDefault rfl
  rw [show Request.plainByDefault.tokenAddress = some Sources.plainAddress from rfl, hvalue]
    at hwork
  exact ⟨_, hwork, hsettled⟩

/-- The second answer to `plainTwice` is the first one again. -/
private theorem second_of_plainTwice : ∃ effect a,
    (Session.hourly.run plainTwice).1[1]? = some effect ∧ effect.answers[0]? = some a ∧
      a.request = .plainByDefault := by
  let c := vacant .legacy 1
  have hnow : c.atTime 0 = c := rfl
  obtain ⟨a, id, h₁, h₂⟩ := c.second_answer_of_settled 0 0 .plainByDefault .plain .hourly _ rfl
    (by decide) (Verifier.lookUp_of_isFresh _ _ _ Session.isFresh_hourly) rfl
    isSettled_plainByDefault (by rw [hnow]; exact isLive_hourly .legacy 1)
  rw [hnow] at h₁ h₂
  have hrequest := c.verifier.request_of_isFresh _ _ Session.isFresh_hourly a h₁
  obtain ⟨effect, heffect, hanswers⟩ := Session.run_verify_pair _ _ _ _ _ _ h₂
  exact ⟨effect, { a with requestId := id }, heffect, by rw [hanswers]; rfl, hrequest⟩

/-- The second answer to `plainTwice` names the first request and not the second, which spells the
chain out. -/
theorem second_answer_names_first : ∃ effect a,
    (Session.hourly.run plainTwice).1[1]? = some effect ∧ effect.answers[0]? = some a ∧
      plainTwice[1]?.map (fun e => e.verifier.requestsOf e.action) = some [.plain] ∧
      a.request ≠ .plain := by
  obtain ⟨effect, a, heffect, ha, hrequest⟩ := second_of_plainTwice
  refine ⟨effect, a, heffect, ha, rfl, fun hplain => ?_⟩
  have hchain := congrArg Request.chainId (hrequest.symm.trans hplain)
  exact absurd hchain (by decide)

/-- The second answer to `plainTwice` is recalled from what was worked out for the first request,
which passes for the second. -/
theorem second_answer_is_recalled : ∃ effect a,
    (Session.hourly.run plainTwice).1[1]? = some effect ∧ effect.answers[0]? = some a ∧
      a.request.PassesFor .plain 1 ∧
      (a.request = .plain ∨ Session.hourly.cache ≠ none ∧
        a.IsRecalled plainTwice ((vacant .legacy 1).verifier.keyOf .plain)) := by
  obtain ⟨effect, a, heffect, ha, _⟩ := second_of_plainTwice
  obtain ⟨e, r, he, hr, hpasses, hnames⟩ := answers_name_requests plainTwice .hourly
    Session.isFresh_hourly 1 (by simp [plainTwice, verifier, vacant]) 1 0 effect a heffect ha
  obtain rfl := Option.some.inj he
  obtain rfl := Option.some.inj hr
  exact ⟨effect, a, heffect, ha, hpasses, hnames⟩

end Scene

end TokenRisk
