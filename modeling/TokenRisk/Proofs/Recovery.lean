import TokenRisk.Proofs.Isolation
import TokenRisk.Proofs.Resurvey
import TokenRisk.Proofs.Safety

/-!
# What is remembered of failures that may pass

A provider that fails now may answer a moment later, so an analysis that came to nothing for its
sake is not to be remembered. The memory looks at one outcome only, that on the requested chain. So
an analysis that it keeps is never the result of a failure that may pass; but a survey of several
chains is kept with all of its records, whatever their chains came to.

## Key results

- `Scene.analysisLasts_of_isSettled`: what is kept has an analysis that lasts
- `forgetsPassing_iff`: failures that may pass are forgotten exactly among requests that survey no
  supported chain
- `Scene.failed_record_outlives_failure`: a survey keeps the record of a failure that has passed
-/

namespace TokenRisk

/-! ## Failures that may pass -/

/-- An outcome that another try may change: a provider failed, or something unplanned happened. -/
def Outcome.IsPassing (o : Outcome) : Prop :=
  ∃ x f, o = .failed x f ∧ (f.isProvider = true ∨ ∃ message, f = .unexpected message)

/-- An outcome that `IsPassing` is not settled. -/
theorem Outcome.not_isPassing_of_isSettled (o : Outcome) (h : o.isSettled = true) :
    ¬ o.IsPassing := by
  rintro ⟨x, f, rfl, hprovider | ⟨message, rfl⟩⟩
  · cases f with
    | provider name why => cases h
    | _ => cases hprovider
  · cases h

/-- The record of a chain lasts: the chain is not supported, or its analysis came in time to an
outcome that another try does not change. -/
def Surveyor.LastsOn (s : Surveyor) (address : String) (chainId : Int) : Prop :=
  Chain.isSupported chainId = true → ∃ o, s.reached address chainId = some (.ok o) ∧ ¬ o.IsPassing

namespace Scene

variable (c : Scene)

/-- An answer was worked out for a request, and its analysis is that of an outcome that lasts. -/
def AnalysisLasts (r : Request) (a : Verification) : Prop :=
  ∃ id o, (c.verifier.work id r).value = .ok (a, o) ∧ a.analysis = some o.analysis ∧ ¬ o.IsPassing

/-- Each record in the survey of an answer lasts: `LastsOn` holds of its chain. -/
def RecordsLast (r : Request) (a : Verification) : Prop :=
  ∀ survey, a.survey = some survey → ∀ record ∈ survey.records,
    c.surveyor.LastsOn r.addressText record.chainId

end Scene

/-- After a history, whatever is remembered under a key was worked out for a request of the history
that has the key, and lasts. -/
def Session.KeepsLasting (lasts : Scene → Request → Verification → Prop) (s : Session)
    (history : List Occasion) : Prop :=
  (s.run (history.map Occasion.event)).2.Keeps fun key a =>
    ∃ x ∈ history, ∃ r ∈ x.scene.verifier.begunBy x.action,
      x.scene.verifier.keyOf r = key ∧ lasts x.scene r a

/-- Failures that may pass are forgotten, as long as only some requests are let in: nothing that is
remembered stems from one; and when a request came to one, it is worked on again the next time. -/
structure ForgetsPassing (letIn : Request → Prop) : Prop where
  kept : ∀ (history : List Occasion) (s : Session), s.IsFresh →
    (∀ x ∈ history, ∀ r ∈ x.scene.verifier.begunBy x.action, letIn r) →
    s.KeepsLasting (fun c r a => c.AnalysisLasts r a ∧ c.RecordsLast r a) history
  again : ∀ (before after : Scene) (r : Request) (s : Session), letIn r →
    after.defaultChainId = before.defaultChainId →
    s.Keeps (fun key _ => key ≠ before.verifier.keyOf r) →
    (∀ a, ¬ (before.AnalysisLasts r a ∧ before.RecordsLast r a)) →
    ∃ id, (after.verifier.begin r (before.verifier.verify r s).2).1 =
      .working (after.verifier.work id r)

/-! ## What is kept -/

/-- The `check` of an address depends on its text alone. -/
private theorem Address.check_congr (scheme : Scheme) (address address' : Option String)
    (h : address.getD "" = address'.getD "") : check scheme address = check scheme address' := by
  simp only [check, h]

namespace Scene

variable (c : Scene) {id : String} {r : Request} {a : Verification} {o : Outcome}

/-- For what is kept `AnalysisLasts` holds. -/
theorem analysisLasts_of_isSettled (hwork : (c.verifier.work id r).value = .ok (a, o))
    (hsettled : o.isSettled = true) : c.AnalysisLasts r a := by
  obtain ⟨_, survey, rfl, _⟩ := c.work_eq_ok id r a o hwork
  exact ⟨id, o, hwork, rfl, o.not_isPassing_of_isSettled hsettled⟩

/-- If `work` comes to an answer, the check of the address came to an end. -/
private theorem standing_of_work_eq_ok (hwork : (c.verifier.work id r).value = .ok (a, o)) :
    Address.standing c.analyzer.scheme r.tokenAddress ≠ none := by
  obtain ⟨⟨address, haddress, hvalue, _⟩, _⟩ := c.work_eq_ok id r a o hwork
  rw [Address.standing, Address.check_congr _ r.tokenAddress address haddress.symm]
  cases hcheck : Address.check c.analyzer.scheme address with
  | error f => simp [Analyzer.analyze, hcheck] at hvalue
  | ok found => simp [Except.toOption]

/-- `RecordsLast` holds of an answer that surveys no supported chain. -/
private theorem recordsLast_of_work (hwork : (c.verifier.work id r).value = .ok (a, o))
    (hnone : r.crossChain = true → (∃ scheme, Address.standing scheme r.tokenAddress ≠ none) →
      (Surveyor.targets r.chainIds).any Chain.isSupported = false) : c.RecordsLast r a := by
  have hstanding := c.standing_of_work_eq_ok hwork
  obtain ⟨_, survey', rfl, hsurveyed⟩ := c.work_eq_ok id r a o hwork
  intro survey hsurvey record hrecord hsupported
  rw [show survey' = some survey from hsurvey] at hsurveyed
  obtain ⟨hcross, _, hrecords⟩ := hsurveyed
  -- Each record is that of a target, and no target is supported.
  rw [(Survey.ofRecords_eq_ok _ _ _ _ _ hrecords).1] at hrecord
  obtain ⟨target, htarget, rfl⟩ := List.mem_map.mp hrecord
  rw [Surveyor.chainId_visitOn] at hsupported
  have hout := List.any_eq_false.mp (hnone hcross ⟨_, hstanding⟩) target htarget
  exact absurd hsupported hout

end Scene

/-- What `Session.run` remembers never has an analysis that another try may change. -/
private theorem keepsLasting_analysis (history : List Occasion) (s : Session) (h : s.IsFresh) :
    s.KeepsLasting Scene.AnalysisLasts history := by
  refine (Session.keeps_run _ s h).mono fun key a hworked => ?_
  obtain ⟨e, he, r, hr, hkey, id, o, hwork, hsettled⟩ := hworked
  obtain ⟨x, hx, rfl⟩ := List.mem_map.mp he
  exact ⟨x, hx, r, hr, hkey, x.scene.analysisLasts_of_isSettled hwork hsettled⟩

/-- Among requests that survey no supported chain, `ForgetsPassing` holds. -/
private theorem forgetsPassing_of_none (letIn : Request → Prop)
    (h : ∀ r, letIn r → r.crossChain = true →
      (∃ scheme, Address.standing scheme r.tokenAddress ≠ none) →
      (Surveyor.targets r.chainIds).any Chain.isSupported = false) : ForgetsPassing letIn := by
  constructor
  case kept =>
    intro history s hfresh hletIn
    -- Whatever is kept comes from settled work on a request that was let in.
    refine (Session.keeps_run _ s hfresh).mono fun key a hworked => ?_
    obtain ⟨e, he, r, hr, hkey, id, o, hwork, hsettled⟩ := hworked
    obtain ⟨x, hx, rfl⟩ := List.mem_map.mp he
    exact ⟨x, hx, r, hr, hkey, x.scene.analysisLasts_of_isSettled hwork hsettled,
      x.scene.recordsLast_of_work hwork (h r (hletIn x hx r hr))⟩
  case again =>
    intro before after r s hletIn hdefault hforgotten hpassing
    -- What would be kept under the key would last, so nothing is.
    have hupholds : before.verifier.Upholds (fun key _ => key ≠ before.verifier.keyOf r) r := by
      intro id a o hwork hsettled
      exact absurd ⟨before.analysisLasts_of_isSettled hwork hsettled,
        before.recordsLast_of_work hwork (h r hletIn)⟩ (hpassing a)
    -- The key does not depend on the world, only on the default chain.
    have hkey : after.verifier.keyOf r = before.verifier.keyOf r := by
      rw [Scene.keyOf_verifier, Scene.keyOf_verifier, Scene.chainOf, Scene.chainOf, hdefault]
    have hkeeps := (before.verifier.verify_spec r s hforgotten fun _ => hupholds).1
    have hmiss : (after.verifier.lookUp r (before.verifier.verify r s).2).1 = none := by
      rw [Option.eq_none_iff_forall_ne_some]
      intro a ha
      exact (after.verifier.lookUp_spec r _ hkeeps).2 a ha hkey
    simp only [Verifier.begin, hmiss]
    exact ⟨_, rfl⟩

/-! ## A survey without time -/

namespace Scene

variable (scheme : Address.Scheme) (defaultChainId : Int)

/-- A scene in which no address has code, and no chain of a survey is given any time. -/
def hasty : Scene :=
  { vacant scheme defaultChainId with chainLimit := some (.whole 0) }

/-- No chain is reached in the `hasty` scene. -/
private theorem reached_hasty (address : String) (chainId : Int) :
    (hasty scheme defaultChainId).surveyor.reached address chainId = none := by
  have hlimit : (Number.whole 0).toBinary64.le .zero = true := by decide +kernel
  show (Timed.within (some (Number.whole 0).toBinary64) none _).value = none
  simp only [Timed.within, hlimit, ↓reduceIte]

/-- Still a survey in the `hasty` scene is answered by an outcome that is settled. -/
private theorem work_hasty (id : String) (r : Request) (hcross : r.crossChain = true)
    (hstanding : Address.standing scheme r.tokenAddress ≠ none) :
    ∃ o survey, ((hasty scheme defaultChainId).verifier.work id r).value =
        .ok ((hasty scheme defaultChainId).verifier.answer id r o (some survey), o) ∧
      o.isSettled = true ∧ (hasty scheme defaultChainId).surveyOf r = .ok survey := by
  obtain ⟨valid, hvalid⟩ := Option.ne_none_iff_exists'.mp hstanding
  obtain ⟨found, hcheck, _⟩ := (Address.standing_eq_some_iff ..).mp hvalid
  obtain ⟨o, _, hvalue, _, hsettled, _⟩ := analyze_vacant scheme defaultChainId r.tokenAddress
    ((hasty scheme defaultChainId).chainOf r) found hcheck
  obtain ⟨survey, hsurvey⟩ := (hasty scheme defaultChainId).surveyOf_of_isFailed r
    fun id o' hreached => by
      rw [reached_hasty] at hreached
      cases hreached
  -- As the survey does not reach the requested chain, that is analyzed by itself, without a limit.
  refine ⟨o, survey, value_work_of_reached _ id r o (some survey) hvalue ?_
    ⟨hcross, .inl (show (0 : Int) < 8 by decide), hsurvey⟩, hsettled, hsurvey⟩
  intro o' hreached
  rw [reached_hasty] at hreached
  cases hreached

end Scene

/-- If `ForgetsPassing` holds, no supported chain is surveyed. -/
private theorem none_of_forgetsPassing (letIn : Request → Prop) (h : ForgetsPassing letIn)
    (r : Request) (hr : letIn r) (hcross : r.crossChain = true) (scheme : Address.Scheme)
    (hstanding : Address.standing scheme r.tokenAddress ≠ none) :
    (Surveyor.targets r.chainIds).any Chain.isSupported = false := by
  let c := Scene.hasty scheme 1
  have hwork (id : String) := Scene.work_hasty scheme 1 id r hcross hstanding
  obtain ⟨id, a, o, hao, _, hfound⟩ := c.verifier.lookUp_verify c.verifier r r .hourly _ rfl
    (by decide) (c.verifier.lookUp_of_isFresh r .hourly Session.isFresh_hourly) rfl fun id => by
      obtain ⟨o, survey, hvalue, hsettled, _⟩ := hwork id
      exact ⟨_, o, hvalue, hsettled⟩
  replace hfound := hfound.trans (if_pos (Scene.isLive_hourly scheme 1))
  -- The answer is kept, so it was worked out for the request and each of its records lasts.
  have hkept := h.kept [⟨c, .verify r⟩] .hourly Session.isFresh_hourly fun x hx r' hr' => by
    rw [List.mem_singleton.mp hx] at hr'
    rw [List.mem_singleton.mp hr']
    exact hr
  obtain ⟨x, hx, r', hr', _, _, hrecords⟩ := (c.verifier.lookUp_spec r _ hkept).2 a hfound
  rw [List.mem_singleton.mp hx] at hr' hrecords
  rw [List.mem_singleton.mp hr'] at hrecords
  obtain ⟨o', survey, hvalue, _, hsurvey⟩ := hwork id
  obtain ⟨rfl, _⟩ := Prod.mk.inj (Except.ok.inj (hao.symm.trans hvalue))
  rw [List.any_eq_false]
  -- But the record of a supported target does not last: its chain was never reached.
  intro target htarget hsupported
  have hrecord : (c.surveyor.visitOn r.addressText target).1 ∈ survey.records := by
    rw [(Survey.ofRecords_eq_ok _ _ _ _ _ hsurvey).1]
    exact List.mem_map_of_mem htarget
  obtain ⟨_, hreached, _⟩ := hrecords survey rfl _ hrecord
    (by rw [Surveyor.chainId_visitOn]; exact hsupported)
  rw [Scene.reached_hasty] at hreached
  cases hreached

/-- Whatever is asked, `AnalysisLasts` holds of what is remembered. Its records last, too, and a
request that came to a failure that may pass is worked on again, exactly among requests that survey
no supported chain, or whose address cannot even be checked. -/
theorem forgetsPassing_iff (letIn : Request → Prop) :
    (∀ (history : List Occasion) (s : Session), s.IsFresh →
      s.KeepsLasting Scene.AnalysisLasts history) ∧
    (ForgetsPassing letIn ↔ ∀ r, letIn r → r.crossChain = true →
      (∃ scheme, Address.standing scheme r.tokenAddress ≠ none) →
      (Surveyor.targets r.chainIds).any Chain.isSupported = false) := by
  refine ⟨keepsLasting_analysis, fun h r hr hcross hstanding => ?_, forgetsPassing_of_none letIn⟩
  obtain ⟨scheme, hscheme⟩ := hstanding
  exact none_of_forgetsPassing letIn h r hr hcross scheme hscheme

/-! ## A node that recovers

No address has code, and at first the node of one chain cannot even say so.
-/

/-- Sources that know no contract, where the node of one chain fails. -/
def Sources.partlyVacant : Sources :=
  { Sources.vacant with
    code _ chainId :=
      { answer := if chainId = 56 then .error (.provider "rpc" (.status 502)) else .ok "0x" } }

namespace Scene

/-- A scene in which no address has code, and the node of one chain fails. -/
def partlyVacant : Scene :=
  { vacant .legacy 1 with analyzer := (vacant .legacy 1).analyzer.asking .partlyVacant }

/-- On other chains the analysis of the `partlyVacant` scene is as settled as where all nodes
answer. -/
private theorem analyze_partlyVacant (chainId : Int) (hchain : chainId ≠ 56) :
    ∃ o, (partlyVacant.analyzer.analyze (some Sources.plainAddress) chainId).value = .ok o ∧
      o.isFailed = true ∧ o.isSettled = true := by
  obtain ⟨found, hcheck, _⟩ := Sources.check_plainAddress
  obtain ⟨o, _, hvalue, hfailed, hsettled, _⟩ := analyze_vacant .legacy 1 _ chainId found hcheck
  have hagree : (vacant .legacy 1).analyzer.sources.AgreeOn .partlyVacant chainId :=
    ⟨fun _ => by simp only [Sources.partlyVacant, if_neg hchain]; rfl, fun _ => rfl,
      fun _ _ => rfl, fun _ => rfl, fun _ => rfl⟩
  have hsame := Analyzer.analyze_agree hagree (some Sources.plainAddress)
  exact ⟨o, (congrArg Timed.value hsame).trans hvalue, hfailed, hsettled⟩

/-- On the chain whose node fails, `analyze` comes to that failure. -/
private theorem analyze_failing :
    ∃ warnings, (partlyVacant.analyzer.analyze (some Sources.plainAddress) 56).value =
      .ok (partlyVacant.analyzer.failure Sources.plainAddress 56 (.provider "rpc" (.status 502))
        warnings Analysis.failedAdvice) := by
  obtain ⟨found, hcheck, hvalid⟩ := Sources.check_plainAddress
  have hlower : Text.lower ((some Sources.plainAddress).getD "") = Sources.plainAddress := by
    decide +kernel
  have hvalue := partlyVacant.analyzer.analyze_of_code_failed (some Sources.plainAddress) 56 found
    hcheck hvalid (by decide) (.provider "rpc" (.status 502)) rfl rfl (Analyzer.isRecorded_ok none)
  rwa [hlower] at hvalue

/-- The survey of `partlyVacant` is settled, as one of its chains answers, and the record of the
other says that its node failed. -/
private theorem work_partlyVacant (id : String) :
    ∃ o survey, (partlyVacant.verifier.work id (.onChains [1, 56])).value =
        .ok (partlyVacant.verifier.answer id (.onChains [1, 56]) o (some survey), o) ∧
      o.isSettled = true ∧
      ∃ record ∈ survey.records, record.chainId = 56 ∧ record.error = some "rpc: HTTP 502" := by
  obtain ⟨o, hvalue, _, hsettled⟩ := analyze_partlyVacant 1 (by decide)
  obtain ⟨warnings, hfailing⟩ := analyze_failing
  -- There is a survey, as no name is found that could not be read.
  obtain ⟨survey, hsurvey⟩ := partlyVacant.surveyOf_of_isFailed (.onChains [1, 56])
    -- Neither of the two chains has an analysis, so there is no name to read.
    fun id o' hreached => by
      have hvalue' := partlyVacant.reached_eq_some _ _ _ hreached
      by_cases hid : id = 56
      · rw [hid] at hvalue'
        rw [Except.ok.inj (hvalue'.symm.trans hfailing)]
        rfl
      · obtain ⟨o'', hvalue'', hfailed, _⟩ := analyze_partlyVacant id hid
        rw [Except.ok.inj (hvalue'.symm.trans hvalue'')]
        exact hfailed
  have hrecord : (partlyVacant.surveyor.visitOn Sources.plainAddress 56).1 ∈ survey.records := by
    rw [(Survey.ofRecords_eq_ok _ _ _ _ _ hsurvey).1]
    exact List.mem_map_of_mem (by decide)
  refine ⟨o, survey, partlyVacant.value_work id (.onChains [1, 56]) _ o (some survey) rfl hvalue
    ⟨rfl, .inl (by decide), hsurvey⟩, hsettled, _, hrecord, Surveyor.chainId_visitOn _ _ _, ?_⟩
  -- The visit of chain 56 ends with the failure of its node, and the record says so.
  have hreached : partlyVacant.surveyor.reached Sources.plainAddress 56 = some _ :=
    congrArg some hfailing
  have hsupported : Chain.isSupported 56 = true := by decide
  rw [Surveyor.visitOn, if_pos hsupported, hreached]
  rfl

/-- The node of a chain of `partlyVacant` fails once, and then it answers; still the survey that is
handed out the second time has the record of the failure. -/
theorem failed_record_outlives_failure :
    (∃ a₁ a₂ survey, ∃ record ∈ survey.records,
      (partlyVacant.verifier.verify (.onChains [1, 56]) .hourly).1.value = .ok a₁ ∧
      ((vacant .legacy 1).verifier.verify (.onChains [1, 56])
        (partlyVacant.verifier.verify (.onChains [1, 56]) .hourly).2).1.value = .ok a₂ ∧
      a₂.survey = some survey ∧ record.chainId = 56 ∧ record.error = some "rpc: HTTP 502") ∧
    ¬ ForgetsPassing (· = .onChains [1, 56]) := by
  constructor
  · -- The node recovers and nothing else changes, neither the key nor the clock.
    have hkey : (vacant .legacy 1).verifier.keyOf (.onChains [1, 56]) =
        partlyVacant.verifier.keyOf (.onChains [1, 56]) := by
      rw [keyOf_verifier, keyOf_verifier]
      rfl
    have hclock : partlyVacant.verifier.clock = (vacant .legacy 1).verifier.clock := by
      rw [Verifier.clock, Verifier.clock]
      rfl
    -- The first request is answered by an outcome that is settled, so the answer is kept.
    obtain ⟨id, a, o, hao, hfirst, hfound⟩ := partlyVacant.verifier.lookUp_verify
      (vacant .legacy 1).verifier _ (.onChains [1, 56]) .hourly _ rfl (by decide)
      (Verifier.lookUp_of_isFresh _ _ .hourly Session.isFresh_hourly) hkey fun id => by
        obtain ⟨o, survey, hvalue, hsettled, _⟩ := work_partlyVacant id
        exact ⟨_, o, hvalue, hsettled⟩
    rw [hclock] at hfound
    -- The second request finds it, and is told what was wrong before.
    obtain ⟨id', hsecond⟩ := (vacant .legacy 1).verifier.verify_of_found _ _ a
      (hfound.trans (if_pos (isLive_hourly .legacy 1)))
    obtain ⟨o', survey, hvalue, _, record, hrecord, hchain, herror⟩ := work_partlyVacant id
    obtain ⟨rfl, _⟩ := Prod.mk.inj (Except.ok.inj (hao.symm.trans hvalue))
    exact ⟨_, _, survey, record, hrecord, hfirst, hsecond, rfl, hchain, herror⟩
  · intro h
    -- Requests that recover have no supported chain among their targets, and these have two.
    have hnone := (forgetsPassing_iff (· = .onChains [1, 56])).2.mp h _ rfl rfl
      ⟨.legacy, by decide +kernel⟩
    exact absurd hnone (by decide)

end Scene

end TokenRisk
