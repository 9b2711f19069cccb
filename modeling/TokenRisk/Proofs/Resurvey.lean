import TokenRisk.Proofs.Transparency

/-!
# What a remembered survey reports on

The chains of a survey are no part of the key under which its answer is kept. So an answer that is
handed out again reports on the request that it was worked out for, and on a later one only as far
as both have the same targets.
-/

namespace TokenRisk

/-- A request to survey the plain token's address on some chains. -/
def Request.onChains (chainIds : List Int) : Request :=
  { plain with crossChain := true, chainIds := some chainIds }

/-- The plain token's address is valid to `check`. -/
theorem Sources.check_plainAddress : ∃ found : Address.Check,
    Address.check .legacy (some plainAddress) = .ok found ∧ found.isValid = true :=
  (Address.standing_eq_some_iff .legacy (some plainAddress) true).mp (by decide +kernel)

namespace Scene

variable (c : Scene)

/-- The survey of `freshContent` has a record for each of the `targets`, in order. -/
theorem chainIds_of_freshContent (r : Request) (survey : Survey)
    (h : (c.freshContent r).2.2 = some survey) :
    survey.records.map ChainRecord.chainId = Surveyor.targets r.chainIds := by
  simp only [freshContent] at h
  cases hwork : (c.verifier.work "" r).value with
  | error f =>
    rw [hwork] at h
    cases h
  | ok x =>
    rw [hwork] at h
    obtain ⟨_, survey', hanswer, hsurveyed⟩ := c.work_eq_ok "" r x.1 x.2 hwork
    replace h : x.1.survey.map Survey.bare = some survey := h
    rw [hanswer] at h
    obtain ⟨survey', rfl, rfl⟩ := Option.map_eq_some_iff.mp h
    have hrecords := (Survey.ofRecords_eq_ok _ _ _ _ _ hsurveyed.2.2).1
    -- A bare record is still of its chain.
    have hbare : ChainRecord.chainId ∘ ChainRecord.bare = ChainRecord.chainId := rfl
    show (survey'.records.map ChainRecord.bare).map ChainRecord.chainId = _
    rw [List.map_map, hbare, hrecords, recordsOf, Surveyor.map_chainId_visitOn]

/-- An answer reports on a request: it says what a verifier with nothing in its memory says, at
whatever time, and its survey, if it has one, has exactly one record for each target of the request,
in order. -/
structure Reports (r : Request) (a : Verification) : Prop where
  asFresh : ∀ ms (s : Session), s.IsFresh → s.CanStore →
    ∃ b, ((c.atTime ms).verifier.verify r s).1.value = .ok b ∧ b.content = a.content
  records : ∀ survey, a.survey = some survey →
    survey.records.map ChainRecord.chainId = Surveyor.targets r.chainIds
  once : ∀ survey, a.survey = some survey → (survey.records.map ChainRecord.chainId).Nodup

/-- An answer `Reports` on a request exactly if it says its `freshContent`. -/
theorem reports_iff (r : Request) (a : Verification) :
    c.Reports r a ↔ a.content = c.freshContent r := by
  constructor
  · intro h
    obtain ⟨b, hb, hsame⟩ := h.asFresh 0 {} Session.isFresh_default Session.canStore_default
    rw [← hsame]
    exact c.content_of_isFresh 0 r {} Session.isFresh_default Session.canStore_default b hb
  · intro h
    -- The chains of the records are those of the targets, as they are without a memory.
    have hrecords (survey : Survey) (hsurvey : a.survey = some survey) :
        survey.records.map ChainRecord.chainId = Surveyor.targets r.chainIds := by
      have hbare : (c.freshContent r).2.2 = some survey.bare := by
        rw [← h, Verification.content, hsurvey]
        rfl
      rw [← c.chainIds_of_freshContent r _ hbare, Survey.bare, List.map_map]
      rfl
    refine ⟨fun ms s hfresh hroom => ?_, hrecords, fun survey hsurvey => ?_⟩
    · obtain ⟨b, hb, hcontent⟩ := c.verify_of_isFresh ms r s hfresh hroom
      exact ⟨b, hb, hcontent.trans h.symm⟩
    · rw [hrecords survey hsurvey]
      exact Surveyor.nodup_targets r.chainIds

/-- An answer `Reports` on requests under one key alike, if they are about the same address and the
same targets. -/
theorem reports_congr (r r' : Request) (a : Verification) (h : c.Reports r a)
    (hkey : c.verifier.keyOf r = c.verifier.keyOf r') (haddress : r.tokenAddress = r'.tokenAddress)
    (htargets : Surveyor.targets r.chainIds = Surveyor.targets r'.chainIds) :
    c.Reports r' a := by
  obtain ⟨_, hchain, hcross⟩ := Verifier.cacheKey_inj _ _ _ _ _ _ hkey
  rw [reports_iff] at h ⊢
  rw [h]
  exact c.freshContent_congr r' r haddress hchain hcross htargets

/-- What one of some requests was worked out for is kept under its key. -/
def IsReport (requests : Request → Prop) (key : String) (a : Verification) : Prop :=
  ∃ r, requests r ∧ c.verifier.keyOf r = key ∧ c.IsSettled r ∧ c.Reports r a

/-- If a session keeps only what `IsReport` holds of, it does so after one of the requests is
made. -/
theorem upholds_isReport (requests : Request → Prop) (ms : Int) (r : Request) (hr : requests r) :
    (c.atTime ms).verifier.Upholds (c.IsReport requests) r := by
  intro id a o hwork hsettled
  have hsaid := c.saidOf_work ms id r
  rw [hwork] at hsaid
  exact ⟨r, hr, (c.keyOf_atTime ms r).symm, (c.isSettled_iff ms id r).mpr ⟨_, hwork, hsettled⟩,
    (c.reports_iff r a).mpr hsaid⟩

/-- After any history, a session keeps only what `IsReport` holds of, for the requests that were
begun in it. -/
theorem keeps_isReport (requests : Request → Prop) (past : List (Int × Action)) (s : Session)
    (hfresh : s.IsFresh) (hpast : ∀ r, c.HasBegun past r → requests r) :
    (s.run (c.eventsOf past)).2.Keeps (c.IsReport requests) := by
  refine (Session.keeps_run (c.eventsOf past) s hfresh).mono fun key a h => ?_
  obtain ⟨r, hbegun, hkey, hsettled, hcontent⟩ := c.content_of_isWorkedIn past key a h
  exact ⟨r, hpast r hbegun, hkey, hsettled, (c.reports_iff r a).mpr hcontent⟩

/-- If a session keeps only what `IsReport` holds of, `verify` reports on the request or on one
under the same key. -/
theorem reports_of_verify (requests : Request → Prop) (ms : Int) (r : Request) (s : Session)
    (a : Verification) (hkeeps : s.Keeps (c.IsReport requests))
    (h : ((c.atTime ms).verifier.verify r s).1.value = .ok a) :
    c.Reports r a ∨ ∃ r', requests r' ∧ c.verifier.keyOf r' = c.verifier.keyOf r ∧
      c.IsSettled r' ∧ c.Reports r' a := by
  -- The answer itself may be kept, so the request counts as one of those that are reported on.
  have hkeeps' : s.Keeps (c.IsReport fun r' => requests r' ∨ r' = r) :=
    hkeeps.mono fun _ _ ⟨r', hr', hrest⟩ => ⟨r', .inl hr', hrest⟩
  have hanswered := ((c.atTime ms).verifier.verify_spec r s hkeeps'
    fun _ => c.upholds_isReport _ ms r (.inr rfl)).2 a h
  rcases c.content_of_answered ms r a hanswered with hcontent | ⟨b, id, hb, rfl⟩
  · exact .inl ((c.reports_iff r a).mpr hcontent)
  · obtain ⟨r', hr', hkey, hsettled, hreports⟩ := hb
    have hagain : c.Reports r' { b with requestId := id } :=
      (c.reports_iff r' _).mpr ((c.reports_iff r' b).mp hreports)
    rw [keyOf_atTime] at hkey
    rcases hr' with hr' | rfl
    · exact .inr ⟨r', hr', hkey, hsettled, hagain⟩
    · exact .inl hagain

/-- A settled request was begun in a history and shares the key of another one, which may be
answered from what is remembered of it. -/
structure MayBeRecalled (history : List (Int × Action)) (r r' : Request) : Prop where
  begun : c.HasBegun history r
  key : c.verifier.keyOf r = c.verifier.keyOf r'
  settled : c.IsSettled r

/-- After a history, `verify` reports on the request or on one that `MayBeRecalled` for it. -/
theorem reports_after (past : List (Int × Action)) (s : Session) (hfresh : s.IsFresh) (ms : Int)
    (r : Request) (a : Verification)
    (h : ((c.atTime ms).verifier.verify r (s.run (c.eventsOf past)).2).1.value = .ok a) :
    c.Reports r a ∨ ∃ r', c.MayBeRecalled past r' r ∧ c.Reports r' a := by
  have hkeeps := c.keeps_isReport (c.HasBegun past) past s hfresh fun _ hr => hr
  rcases c.reports_of_verify _ ms r _ a hkeeps h with
    hreports | ⟨r', hbegun, hkey, hsettled, hreports⟩
  · exact .inl hreports
  · exact .inr ⟨r', ⟨hbegun, hkey, hsettled⟩, hreports⟩

/-- Where no earlier request `MayBeRecalled`, `lookUp` finds nothing. -/
theorem lookUp_of_first (past : List (Int × Action)) (s : Session) (hfresh : s.IsFresh) (ms : Int)
    (r : Request) (hfirst : ∀ r', ¬ c.MayBeRecalled past r' r) :
    ((c.atTime ms).verifier.lookUp r (s.run (c.eventsOf past)).2).1 = none := by
  have hkeeps := c.keeps_isReport (c.HasBegun past) past s hfresh fun _ hr => hr
  rw [Option.eq_none_iff_forall_ne_some]
  intro a ha
  obtain ⟨r', hbegun, hkey, hsettled, _⟩ :=
    ((c.atTime ms).verifier.lookUp_spec r _ hkeeps).2 a ha
  exact hfirst r' ⟨hbegun, by rw [hkey, keyOf_atTime], hsettled⟩

/-- A settled answer that was not remembered is handed out by `verify` again, as long as it lives,
to the next request under its key. -/
theorem second_answer_of_settled (ms₁ ms₂ : Int) (r₁ r₂ : Request) (s : Session)
    (cache : Cache String Verification) (hcache : s.cache = some cache)
    (hcapacity : cache.capacity ≠ 0)
    (hmiss : ((c.atTime ms₁).verifier.lookUp r₁ s).1 = none)
    (hkey : c.verifier.keyOf r₂ = c.verifier.keyOf r₁) (hsettled : c.IsSettled r₁)
    (hlive : (c.atTime ms₂).verifier.clock.lt
      ((c.atTime ms₁).verifier.clock.add cache.lifetime.toBinary64) = true) :
    ∃ a id, ((c.atTime ms₁).verifier.verify r₁ s).1.value = .ok a ∧
      ((c.atTime ms₂).verifier.verify r₂ ((c.atTime ms₁).verifier.verify r₁ s).2).1.value =
        .ok { a with requestId := id } := by
  -- The answer to the first request is settled, so it is kept.
  have hwork (id : String) : ∃ a o, ((c.atTime ms₁).verifier.work id r₁).value = .ok (a, o) ∧
      o.isSettled = true := by
    obtain ⟨x, hx, hxsettled⟩ := (c.isSettled_iff ms₁ id r₁).mp hsettled
    exact ⟨x.1, x.2, hx, hxsettled⟩
  obtain ⟨_, a, _, _, hfirst, hfound⟩ := (c.atTime ms₁).verifier.lookUp_verify
    (c.atTime ms₂).verifier r₁ r₂ s cache hcache hcapacity hmiss
    (by rw [keyOf_atTime, keyOf_atTime, hkey]) hwork
  rw [if_pos hlive] at hfound
  obtain ⟨id, hsecond⟩ := (c.atTime ms₂).verifier.verify_of_found r₂ _ a hfound
  exact ⟨a, id, hfirst, hsecond⟩

/-- Whatever happened before, and as long as no request `IsStuck`, the second of two requests for a
survey of the same address is answered by a report on it or on an earlier request under its key, and
by one on it if all of these have its address and its targets. If the first is the first under their
key and settled, the second is answered by the very answer to the first for as long as that
lives. -/
theorem second_survey_reports (s : Session) (cache : Cache String Verification)
    (hcache : s.cache = some cache) (hempty : cache.entries = []) (hcapacity : cache.capacity ≠ 0)
    (past : List (Int × Action)) (ms₁ ms₂ : Int) (r₁ r₂ : Request)
    (_hslots : ∀ r, c.HasBegun (past ++ [(ms₁, .verify r₁), (ms₂, .verify r₂)]) r →
      ¬ c.verifier.IsStuck r)
    (hcross₁ : r₁.crossChain = true) (hcross₂ : r₂.crossChain = true)
    (haddress : r₂.tokenAddress = r₁.tokenAddress) (hchain : c.chainOf r₂ = c.chainOf r₁) :
    ∃ a₁ a₂, ((c.atTime ms₁).verifier.verify r₁ (s.run (c.eventsOf past)).2).1.value = .ok a₁ ∧
      ((c.atTime ms₂).verifier.verify r₂ ((c.atTime ms₁).verifier.verify r₁
        (s.run (c.eventsOf past)).2).2).1.value = .ok a₂ ∧
      (c.Reports r₂ a₂ ∨
        ∃ r, c.MayBeRecalled (past ++ [(ms₁, .verify r₁)]) r r₂ ∧ c.Reports r a₂) ∧
      ((∀ r, c.MayBeRecalled (past ++ [(ms₁, .verify r₁)]) r r₂ →
        r.tokenAddress = r₂.tokenAddress ∧
          Surveyor.targets r.chainIds = Surveyor.targets r₂.chainIds) → c.Reports r₂ a₂) ∧
      ((∀ r, ¬ c.MayBeRecalled past r r₁) → c.IsSettled r₁ →
        (c.atTime ms₂).verifier.clock.lt
          ((c.atTime ms₁).verifier.clock.add cache.lifetime.toBinary64) = true →
        c.Reports r₁ a₁ ∧ c.Reports r₁ a₂ ∧ ∃ id, a₂ = { a₁ with requestId := id }) := by
  have hfresh : s.IsFresh := fun c' hc' => by
    rw [hcache] at hc'
    rw [← Option.some.inj hc', hempty]
  have hkey : c.verifier.keyOf r₂ = c.verifier.keyOf r₁ := by
    have htext : r₂.addressText = r₁.addressText := congrArg (Option.getD · "") haddress
    rw [keyOf_verifier, keyOf_verifier, htext, hchain, hcross₁, hcross₂]
  let s₁ := (s.run (c.eventsOf past)).2
  -- The cache is as large as at first, so both requests are answered.
  have hbounds : s₁.bounds = some cache.bounds := by
    rw [Session.bounds_run, Session.bounds, hcache]
    rfl
  obtain ⟨cache₁, hcache₁, hsame⟩ := Option.map_eq_some_iff.mp hbounds
  have hcapacity₁ : cache₁.capacity ≠ 0 := by
    rw [show cache₁.capacity = cache.capacity from congrArg Prod.snd hsame]
    exact hcapacity
  have hroom : s₁.CanStore := by
    rw [Session.canStore_run]
    intro c' hc'
    rw [hcache] at hc'
    rw [← Option.some.inj hc']
    exact hcapacity
  obtain ⟨a₁, h₁⟩ := (c.atTime ms₁).verifier.verify_of_canStore r₁ s₁ hroom
  obtain ⟨a₂, h₂⟩ := (c.atTime ms₂).verifier.verify_of_canStore r₂ _
    (((c.atTime ms₁).verifier.canStore_verify r₁ s₁).mpr hroom)
  -- The second request comes after a history that ends with the first one.
  have hsecond : c.Reports r₂ a₂ ∨
      ∃ r, c.MayBeRecalled (past ++ [(ms₁, .verify r₁)]) r r₂ ∧ c.Reports r a₂ := by
    refine c.reports_after _ s hfresh ms₂ r₂ a₂ ?_
    rw [eventsOf, List.map_append, Session.run_append]
    exact h₂
  refine ⟨a₁, a₂, h₁, h₂, hsecond, fun halike => ?_, fun hfirst hsettled hlive => ?_⟩
  · rcases hsecond with hreports | ⟨r, hr, hreports⟩
    · exact hreports
    · obtain ⟨haddress', htargets⟩ := halike r hr
      exact c.reports_congr r r₂ a₂ hreports hr.key haddress' htargets
  · have hmiss := c.lookUp_of_first past s hfresh ms₁ r₁ hfirst
    have hreports : c.Reports r₁ a₁ := by
      rcases c.reports_after past s hfresh ms₁ r₁ a₁ h₁ with hreports | ⟨r, hr, _⟩
      · exact hreports
      · exact absurd hr (hfirst r)
    have hlifetime : cache₁.lifetime = cache.lifetime := congrArg Prod.fst hsame
    obtain ⟨a, id, ha, ha'⟩ := c.second_answer_of_settled ms₁ ms₂ r₁ r₂ s₁ cache₁ hcache₁
      hcapacity₁ hmiss hkey hsettled (by rw [hlifetime]; exact hlive)
    obtain rfl : a = a₁ := Except.ok.inj (ha.symm.trans h₁)
    obtain rfl : _ = a₂ := Except.ok.inj (ha'.symm.trans h₂)
    -- A report says nothing about the identifier under which it is handed out.
    exact ⟨hreports, (c.reports_iff r₁ _).mpr ((c.reports_iff r₁ a).mp hreports), id, rfl⟩

/-! ## Where no address has code -/

/-- Where no address has code, `surveyOf` comes to a survey of every address. -/
private theorem surveyOf_vacant (scheme : Address.Scheme) (defaultChainId : Int) (r : Request) :
    ∃ survey, (vacant scheme defaultChainId).surveyOf r = .ok survey := by
  refine surveyOf_of_isFailed _ r fun id o hreached => ?_
  have hvalue := (vacant scheme defaultChainId).reached_eq_some _ _ _ hreached
  cases hcheck : Address.check scheme (some r.addressText) with
  | error f =>
    have hscheme : Address.check (vacant scheme defaultChainId).analyzer.scheme
      (some r.addressText) = .error f := hcheck
    simp only [Analyzer.analyze, hscheme] at hvalue
    cases hvalue
  | ok found =>
    obtain ⟨o', _, hvalue', hfailed, _⟩ := analyze_vacant scheme defaultChainId _ id found hcheck
    obtain rfl : o = o' := Except.ok.inj (hvalue.symm.trans hvalue')
    exact hfailed

/-- `work` on the plain token's address on some chains is settled, and there is a survey. -/
private theorem work_onChains (id : String) (chainIds : List Int) :
    ∃ o survey, ((vacant .legacy 1).verifier.work id (.onChains chainIds)).value =
      .ok ((vacant .legacy 1).verifier.answer id (.onChains chainIds) o (some survey), o) ∧
        o.isSettled = true := by
  obtain ⟨found, hcheck, _⟩ := Sources.check_plainAddress
  obtain ⟨o, _, hvalue, _, hsettled, _⟩ := analyze_vacant .legacy 1 _ 1 found hcheck
  obtain ⟨survey, hsurvey⟩ := surveyOf_vacant .legacy 1 (.onChains chainIds)
  exact ⟨o, survey, (vacant .legacy 1).value_work id (.onChains chainIds) _ o (some survey) rfl
    hvalue ⟨rfl, .inl (by decide), hsurvey⟩, hsettled⟩

/-- `verify` hands out a survey of one chain for two chains: the address is valid and in lower case,
but the second chain has no record. -/
theorem second_survey_misses_chain :
    Address.standing .legacy (Request.onChains [1, 56]).tokenAddress = some true ∧
    Text.lower (Request.onChains [1, 56]).addressText = (Request.onChains [1, 56]).addressText ∧
    ∃ a₁ a₂ survey,
      ((vacant .legacy 1).verifier.verify (.onChains [1]) .hourly).1.value = .ok a₁ ∧
      ((vacant .legacy 1).verifier.verify (.onChains [1, 56])
        ((vacant .legacy 1).verifier.verify (.onChains [1]) .hourly).2).1.value = .ok a₂ ∧
      a₂.survey = some survey ∧ survey.records.map ChainRecord.chainId = [1] ∧
      Surveyor.targets (Request.onChains [1, 56]).chainIds = [1, 56] := by
  refine ⟨by decide +kernel, by decide +kernel, ?_⟩
  -- In this scene the time makes no difference.
  have hnow : (vacant .legacy 1).atTime 0 = vacant .legacy 1 := rfl
  obtain ⟨o, survey, hwork, hsettled⟩ := work_onChains "" [1]
  obtain ⟨a, id, h₁, h₂⟩ := (vacant .legacy 1).second_answer_of_settled 0 0 (.onChains [1])
    (.onChains [1, 56]) .hourly _ rfl (by decide)
    (Verifier.lookUp_of_isFresh _ _ _ Session.isFresh_hourly) rfl ⟨_, hwork, hsettled⟩
    (by rw [hnow]; exact isLive_hourly .legacy 1)
  -- The first answer comes from a fresh session, so it says what the work comes to.
  have hcontent := (vacant .legacy 1).content_of_isFresh 0 (.onChains [1]) .hourly
    Session.isFresh_hourly (by intro c hc; rw [← Option.some.inj hc]; decide) a h₁
  -- What the answer says is what was worked out for the first request, which has one target.
  have hsurvey : a.survey.map Survey.bare = some survey.bare := by
    have hfresh : (vacant .legacy 1).freshContent (.onChains [1]) =
        saidOf (workContent (.ok (_, o))) :=
      congrArg (fun w => saidOf (workContent w)) hwork
    exact congrArg (fun x : Content => x.2.2) (hcontent.trans hfresh)
  obtain ⟨survey', hsurvey', _⟩ := Option.map_eq_some_iff.mp hsurvey
  have hrecords :=
    (((vacant .legacy 1).reports_iff (.onChains [1]) a).mpr hcontent).records survey' hsurvey'
  rw [hnow] at h₁ h₂
  exact ⟨a, _, survey', h₁, h₂, hsurvey', hrecords, by decide⟩

/-- The second answer, which is to miss a chain, `Reports` on the first request. -/
theorem second_survey_reports_on_first : ∃ a₁ a₂,
    ((vacant .legacy 1).verifier.verify (.onChains [1]) .hourly).1.value = .ok a₁ ∧
    ((vacant .legacy 1).verifier.verify (.onChains [1, 56])
      ((vacant .legacy 1).verifier.verify (.onChains [1]) .hourly).2).1.value = .ok a₂ ∧
    (vacant .legacy 1).Reports (.onChains [1]) a₂ ∧ ∃ id, a₂ = { a₁ with requestId := id } := by
  have hnow : (vacant .legacy 1).atTime 0 = vacant .legacy 1 := rfl
  obtain ⟨o, survey, hwork, hsettled⟩ := work_onChains "" [1]
  obtain ⟨a₁, a₂, h₁, h₂, _, _, hfirst⟩ := (vacant .legacy 1).second_survey_reports .hourly _ rfl
    rfl (by decide) [] 0 0 (.onChains [1]) (.onChains [1, 56])
    -- There are slots, so neither request waits for ever.
    (fun r _ hstuck => absurd hstuck.2.1 (by decide)) rfl rfl rfl rfl
  obtain ⟨_, hreports, hagain⟩ := hfirst (fun r hr => by
    obtain ⟨x, hx, _⟩ := hr.begun
    cases hx) ⟨_, hwork, hsettled⟩ (by rw [hnow]; exact isLive_hourly .legacy 1)
  simp only [eventsOf, List.map_nil, Session.run_nil, hnow] at h₁ h₂
  exact ⟨a₁, a₂, h₁, h₂, hreports, hagain⟩

end Scene

end TokenRisk
