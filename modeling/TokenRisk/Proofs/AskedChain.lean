import TokenRisk.Proofs.Resurvey
import TokenRisk.Proofs.Safety

/-!
# The chain that was asked for

Whatever an answer says is about the chain of its request: the chain that the request gives, or else
the default one. Only the zero is not told from no chain at all. So a verifier honours the chain
that a request gives unless that is the zero while the default is another one.

## Key results

- `Analyzer.chainId_of_analyze`: an analysis is about the chain that it was asked for
- `answers_keep_to_chain`: in every history, an answer keeps to the chain of its request
- `honoursExplicit_iff`: a chain that requests give is honoured unless it is the zero and not the
  default
-/

namespace TokenRisk

/-- Whatever `analyze` comes to is about the chain that it was asked for. -/
theorem Analyzer.chainId_of_analyze (a : Analyzer) (address : Option String) (chainId : Int)
    (o : Outcome) (h : (a.analyze address chainId).value = .ok o) :
    o.analysis.chainId = chainId := by
  rcases a.analyze_cases address chainId o h with
    ⟨text, f, warnings, advice, rfl⟩ | ⟨check, _, _, _, _, warnings, rfl⟩
  · rfl
  · rw [analysis_outcomeOf]
    rfl

/-- A survey that `ofRecords` makes is about the base chain that it was made for. -/
theorem Survey.baseChainId_of_ofRecords (now address : String) (baseChainId : Int)
    (records : List ChainRecord) (survey : Survey)
    (h : Survey.ofRecords now address baseChainId records = .ok survey) :
    survey.baseChainId = baseChainId := by
  obtain ⟨_, _, hsurvey⟩ := Except.bind_eq_ok_iff.mp h
  cases hsurvey
  rfl

/-- An answer keeps to a chain: its analysis and its survey are about that chain, and each record of
the survey has an analysis of its own chain, if it has one. -/
structure Verification.KeepsTo (chainId : Int) (a : Verification) : Prop where
  analysis : ∀ x, a.analysis = some x → x.chainId = chainId
  survey : ∀ survey, a.survey = some survey → survey.baseChainId = chainId
  records : ∀ survey, a.survey = some survey → ∀ record ∈ survey.records,
    ∀ x, record.analysis = some x → x.chainId = record.chainId

/-- Only the content of an answer matters to the chain that it `KeepsTo`, not its identifier. -/
theorem Verification.KeepsTo.renamed {chainId : Int} {a : Verification} (h : a.KeepsTo chainId)
    (id : String) : Verification.KeepsTo chainId { a with requestId := id } :=
  ⟨h.analysis, h.survey, h.records⟩

namespace Scene

variable (c : Scene)

/-- The analysis in a record of `visitOn` is about the chain of the record. -/
theorem chainId_of_visitOn (address : String) (chainId : Int) (x : Analysis)
    (h : (c.surveyor.visitOn address chainId).1.analysis = some x) : x.chainId = chainId := by
  obtain ⟨o, ho, _, rfl⟩ := (c.surveyor.analysis_visitOn_iff address chainId x).mp h
  obtain ⟨_, hreached⟩ := (c.surveyor.outcome_visitOn_iff address chainId o).mp ho
  exact c.analyzer.chainId_of_analyze _ _ _ (c.reached_eq_some address chainId _ hreached)

/-- What `work` on a request comes to keeps to its chain. -/
theorem keepsTo_of_work (id : String) (r : Request) (a : Verification) (o : Outcome)
    (h : (c.verifier.work id r).value = .ok (a, o)) : a.KeepsTo (c.chainOf r) := by
  obtain ⟨⟨address, _, hvalue, _⟩, survey, rfl, hsurveyed⟩ := c.work_eq_ok id r a o h
  constructor
  case analysis =>
    intro x hx
    rw [← Option.some.inj hx]
    exact c.analyzer.chainId_of_analyze _ _ _ hvalue
  case survey =>
    rintro survey rfl
    exact Survey.baseChainId_of_ofRecords _ _ _ _ _ hsurveyed.2.2
  case records =>
    rintro survey rfl record hrecord x hx
    -- A record of the survey is that of a visit, and keeps the chain that is visited.
    rw [(Survey.ofRecords_eq_ok _ _ _ _ _ hsurveyed.2.2).1] at hrecord
    obtain ⟨chainId, _, rfl⟩ := List.mem_map.mp hrecord
    rw [Surveyor.chainId_visitOn]
    exact c.chainId_of_visitOn _ _ _ hx

/-- An answer `KeepsTo` the chain of its request if those do that are kept for it. -/
theorem keepsTo_of_answered {P : String → Verification → Prop} (r : Request) (a : Verification)
    (h : c.verifier.Answered P r a)
    (hkept : ∀ b, P (c.verifier.keyOf r) b → b.KeepsTo (c.chainOf r)) :
    a.KeepsTo (c.chainOf r) := by
  cases h with
  | kept id b hb => exact (hkept b hb).renamed id
  | worked id _ o hwork => exact c.keepsTo_of_work id r a o hwork
  | failed id id' f hwork => exact ⟨by rintro x ⟨⟩, by rintro x ⟨⟩, by rintro x ⟨⟩⟩

end Scene

/-- Settings and sources may change from one `Occasion` to the next, and there may or may not be a
cache. Still every answer `KeepsTo` the chain of the request in the same place. -/
theorem answers_keep_to_chain (history : List Occasion) (s : Session) (hfresh : s.IsFresh)
    (i j : Nat) (x : Occasion) (r : Request) (effect : Effect) (a : Verification)
    (hx : history[i]? = some x) (hr : (x.scene.verifier.requestsOf x.action)[j]? = some r)
    (heffect : (s.run (history.map Occasion.event)).1[i]? = some effect)
    (ha : effect.answers[j]? = some a) : a.KeepsTo (x.scene.chainOf r) := by
  obtain ⟨e, he, r', hr', hanswered⟩ := answers_run_in_place _ s hfresh i j effect a heffect ha
  rw [List.getElem?_map, hx, Option.map_some] at he
  obtain rfl := Option.some.inj he
  obtain rfl : r = r' := Option.some.inj (hr.symm.trans hr')
  refine x.scene.keepsTo_of_answered r a hanswered fun b hb => ?_
  -- A kept answer was worked out for a request under the same key, which gives the chain away.
  obtain ⟨e', he', r', _, hkey, id, o, hwork, _⟩ := hb.2
  rw [← List.map_take, List.mem_map] at he'
  obtain ⟨x', _, rfl⟩ := he'
  have hchain : x'.scene.chainOf r' = x.scene.chainOf r :=
    (Verifier.cacheKey_inj _ _ _ _ _ _ hkey).2.1
  rw [← hchain]
  exact x'.scene.keepsTo_of_work id r' b o hwork

/-- In every history of scenes with a default chain, from an empty memory, the requests that give a
chain get answers that keep to it. -/
def HonoursExplicit (defaultChainId chainId : Int) : Prop :=
  ∀ (history : List Occasion) (s : Session), s.IsFresh →
    (∀ x ∈ history, x.scene.defaultChainId = defaultChainId) →
      ∀ (i j : Nat) (x : Occasion) (r : Request) (effect : Effect) (a : Verification),
        history[i]? = some x → (x.scene.verifier.requestsOf x.action)[j]? = some r →
          r.chainId = some chainId →
            (s.run (history.map Occasion.event)).1[i]? = some effect →
              effect.answers[j]? = some a → a.KeepsTo chainId

/-- `chainOr` for a request that gives a chain. -/
theorem Request.chainOr_of_explicit (r : Request) (defaultChainId chainId : Int)
    (h : r.chainId = some chainId) :
    r.chainOr defaultChainId = if chainId = 0 then defaultChainId else chainId := by
  simp only [chainOr, h]

/-- A request for the plain token on the chain zero. -/
def Request.plainOnZero : Request :=
  { plain with chainId := some 0 }

/-- `Request.plainOnZero` is answered by an analysis of the default chain. -/
private theorem analysis_of_zero (defaultChainId : Int) :
    ∃ effect a x, (({} : Session).run
        [⟨(Scene.vacant .legacy defaultChainId).verifier, .verify .plainOnZero⟩]).1[0]? =
          some effect ∧
      effect.answers[0]? = some a ∧ a.analysis = some x ∧ x.chainId = defaultChainId := by
  let c := Scene.vacant .legacy defaultChainId
  -- The zero counts as no chain, so the analysis is that of the default one.
  obtain ⟨found, hcheck, _⟩ := Sources.check_plainAddress
  obtain ⟨o, _, hvalue, _⟩ := Scene.analyze_vacant .legacy defaultChainId
    (some Sources.plainAddress) (c.chainOf .plainOnZero) found hcheck
  obtain ⟨id, s', _, hroom, hverify, _⟩ := c.verifier.verify_of_not_found .plainOnZero {} rfl
  have hwork := c.value_work_of_single id .plainOnZero rfl
  rw [show Request.plainOnZero.tokenAddress = some Sources.plainAddress from rfl, hvalue] at hwork
  rw [hwork] at hverify
  have hanswer := hverify.trans ((c.verifier.complete_eq_ok_iff .plainOnZero _ _ o s').mpr
    ⟨rfl, fun _ => hroom.mpr Session.canStore_default⟩)
  refine ⟨_, c.verifier.answer id .plainOnZero o none, o.analysis, rfl, ?_, rfl,
    c.analyzer.chainId_of_analyze _ _ o hvalue⟩
  exact congrArg (·[0]?) (c.verifier.answers_answerOne .plainOnZero {} _ hanswer)

/-- `HonoursExplicit` holds of a chain, unless it is zero and another one is the default. -/
theorem honoursExplicit_iff (defaultChainId chainId : Int) :
    HonoursExplicit defaultChainId chainId ↔ chainId ≠ 0 ∨ defaultChainId = 0 := by
  constructor
  · intro h
    by_cases hzero : chainId = 0
    · -- The zero is answered on the default chain, so that must be the zero.
      right
      obtain ⟨effect, a, y, heffect, ha, hanalysis, hdefault⟩ := analysis_of_zero defaultChainId
      have hkeeps := h [⟨.vacant .legacy defaultChainId, .verify .plainOnZero⟩] {}
        Session.isFresh_default (by simp [Scene.vacant]) 0 0 _ .plainOnZero effect a rfl rfl
        (by rw [hzero]; rfl) heffect ha
      rw [← hdefault, hkeeps.analysis y hanalysis, hzero]
    · exact .inl hzero
  · intro h history s hfresh hdefault i j x r effect a hx hr hchain heffect ha
    have hkeeps := answers_keep_to_chain history s hfresh i j x r effect a hx hr heffect ha
    -- Any other chain is the chain of the request, and the zero is if it is the default one.
    have hsame : x.scene.chainOf r = chainId := by
      rw [Scene.chainOf, hdefault x (List.mem_of_getElem? hx),
        r.chainOr_of_explicit defaultChainId chainId hchain]
      split
      · rename_i hzero
        rcases h with h | h
        · exact absurd hzero h
        · rw [h, hzero]
      · rfl
    rwa [hsame] at hkeeps

/-- So `HonoursExplicit` fails for the chain zero by a verifier for the first chain, although zero
is not even supported, and holds for any other chain, supported or not. -/
theorem zero_is_not_honoured :
    Chain.isSupported 0 = false ∧ ¬ HonoursExplicit 1 0 ∧ HonoursExplicit 1 56 ∧
      HonoursExplicit 1 999 := by
  refine ⟨by decide, fun h => ?_, (honoursExplicit_iff 1 56).mpr (.inl (by decide)),
    (honoursExplicit_iff 1 999).mpr (.inl (by decide))⟩
  exact absurd ((honoursExplicit_iff 1 0).mp h) (by decide)

end TokenRisk
