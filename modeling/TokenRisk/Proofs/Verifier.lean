import TokenRisk.Proofs.Decision
import TokenRisk.Proofs.Survey
import TokenRisk.Setup

/-!
# What an answer is made of

A scene is everything that an answer depends on besides the request and the memory. Within a scene
all analyses come from one analyzer, whether they are made for the requested chain or in the course
of a survey. `work_eq_ok` takes a verification apart into the outcome on the requested chain and the
survey, and `value_work` puts it together again for an address that is there.
-/

namespace TokenRisk

/-- Everything that an answer depends on besides the request and the memory: an `Analyzer` over the
sources of the moment, how surveys are run with it, the chain that is meant by default, and the
clock. -/
structure Scene where
  analyzer : Analyzer
  /-- The longest time for one chain of a survey, in seconds. -/
  chainLimit : Option Number
  slots : Int
  defaultChainId : Int
  nowMs : Int

namespace Scene

variable (c : Scene)

/-- The surveyor of a scene, which visits chains by `analyze`. -/
def surveyor : Surveyor where
  analyze := c.analyzer.analyze
  chainLimit := c.chainLimit
  slots := c.slots
  now := timestamp c.nowMs

/-- The verifier of a scene, which has its analyses and surveys from the same `analyze`. -/
def verifier : Verifier where
  analyze := c.analyzer.analyze
  surveyor := c.surveyor
  defaultChainId := c.defaultChainId
  nowMs := c.nowMs

/-- The chain of a request, by default that of the scene. -/
def chainOf (r : Request) : Int :=
  r.chainOr c.defaultChainId

end Scene

/-- The scene that `config` sets up over sources. -/
def Config.scene (config : Config) (profile : Profile) (detectors : Detectors) (sources : Sources)
    (nowMs : Int) : Scene where
  analyzer := config.analyzer profile detectors sources nowMs
  chainLimit := config.chainTimeout.map .real
  slots := config.maxConcurrentChains
  defaultChainId := config.defaultChainId
  nowMs := nowMs

/-- A verifier that `config` sets up is that of `Config.scene`. -/
theorem Config.verifier_scene (config : Config) (profile : Profile) (detectors : Detectors)
    (sources : Sources) (nowMs : Int) :
    (config.scene profile detectors sources nowMs).verifier =
      config.verifier (config.analyzer profile detectors sources nowMs).analyze nowMs := rfl

namespace Scene

variable (c : Scene)

/-- The key of a request is its `cacheKey`, with the chain of `chainOf`. -/
theorem keyOf_verifier (r : Request) : c.verifier.keyOf r =
    Verifier.cacheKey r.addressText (c.chainOf r) r.crossChain := rfl

/-- The `work` on a request for a single chain is what `analyze` comes to. -/
theorem value_work_of_single (id : String) (r : Request) (h : r.crossChain = false) :
    (c.verifier.work id r).value = (c.analyzer.analyze r.tokenAddress (c.chainOf r)).value.map
      fun o => (c.verifier.answer id r o none, o) := by
  simp only [Verifier.work, h, Bool.false_eq_true, ↓reduceIte, Timed.value_map]
  rfl

/-- The records of `visitOn` for an address on its targets. -/
def recordsOf (address : String) (chainIds : Option (List Int)) : List ChainRecord :=
  (Surveyor.targets chainIds).map fun id => (c.surveyor.visitOn address id).1

/-- The survey that `recordsOf` a request adds up to. -/
def surveyOf (r : Request) : Except Failure Survey :=
  Survey.ofRecords (timestamp c.nowMs) (Text.lower r.addressText) (c.chainOf r)
    (c.recordsOf r.addressText r.chainIds)

/-- Where every chain is `reached` with a placeholder only, there is a survey. -/
theorem surveyOf_of_isFailed (r : Request) (h : ∀ chainId o,
    c.surveyor.reached r.addressText chainId = some (.ok o) → o.isFailed = true) :
    ∃ survey, c.surveyOf r = .ok survey := by
  refine (Survey.ofRecords_isOk_iff _ _ _ _).mpr fun record hrecord a ha => ?_
  obtain ⟨id, _, rfl⟩ := List.mem_map.mp hrecord
  obtain ⟨o, ho, hfound, _⟩ := (Surveyor.analysis_visitOn_iff _ _ _ _).mp ha
  obtain ⟨_, hreached⟩ := (Surveyor.outcome_visitOn_iff _ _ _ _).mp ho
  exact absurd (h id o hreached) (by simp [hfound])

/-- The survey, if any, that an answer to a request has. -/
def Surveyed (r : Request) : Option Survey → Prop
  | none => r.crossChain = false
  | some survey => r.crossChain = true ∧ c.surveyor.HasSlots (Surveyor.targets r.chainIds) ∧
      c.surveyOf r = .ok survey

/-- What `reached` has on a chain is what `analyze` comes to there. -/
theorem reached_eq_some (address : String) (chainId : Int) (x : Except Failure Outcome)
    (h : c.surveyor.reached address chainId = some x) :
    (c.analyzer.analyze (some address) chainId).value = x :=
  (c.surveyor.reached_eq_some address chainId x h).1

/-- What `analyzeWithSurvey` comes to: an outcome that is that of an analysis of the address, all of
whose questions were asked, and the survey of `surveyOf`. -/
theorem analyzeWithSurvey_eq_ok (r : Request) (o : Outcome) (survey : Survey)
    (h : (c.verifier.analyzeWithSurvey r (c.chainOf r)).value = .ok (o, survey)) :
    (c.surveyor.HasSlots (Surveyor.targets r.chainIds) ∧ c.surveyOf r = .ok survey) ∧
      ∃ address, address.getD "" = r.addressText ∧
        (c.analyzer.analyze address (c.chainOf r)).value = .ok o ∧
        ∀ call ∈ (c.analyzer.analyze address (c.chainOf r)).asked,
          call ∈ (c.verifier.analyzeWithSurvey r (c.chainOf r)).asked := by
  simp only [Verifier.analyzeWithSurvey] at h ⊢
  have htargets := Surveyor.targets_targets r.chainIds
  by_cases hbase : (Surveyor.targets r.chainIds).contains (c.chainOf r) = true
  · -- The requested chain is among the targets.
    simp only [hbase, Bool.not_true, Bool.false_eq_true, ↓reduceIte, Timed.value_bind,
      Timed.asked_bind] at h ⊢
    cases hrun : (c.verifier.surveyor.run r.addressText (some (Surveyor.targets r.chainIds))
        (c.chainOf r)).value with
    | error f => simp [hrun] at h
    | ok result =>
      obtain ⟨survey', outcomes⟩ := result
      obtain ⟨hslots, hsurvey, houtcomes⟩ := c.surveyor.run_eq_ok _ _ _ _ _ hrun
      rw [htargets] at hslots hsurvey houtcomes
      simp only [hrun] at h ⊢
      cases hlookup : outcomes.lookup (c.chainOf r) with
      -- Its outcome is taken from the survey, or from an analysis afterwards where its visit has
      -- none.
      | some o' =>
        simp only [hlookup, Timed.value_pure, Except.ok.injEq, Prod.mk.injEq] at h
        obtain ⟨rfl, rfl⟩ := h
        refine ⟨⟨hslots, hsurvey⟩, some r.addressText, rfl, ?_⟩
        rw [houtcomes, Surveyor.lookup_outcomesOn, if_pos (by simpa using hbase),
          Surveyor.outcome_visitOn_iff] at hlookup
        refine ⟨c.reached_eq_some _ _ _ hlookup.2, fun call hcall => ?_⟩
        exact List.mem_append_left _ (c.surveyor.asked_run _ _ _ _ call _ (by rwa [htargets])
          (by rw [htargets]; simpa using hbase) hlookup.1 hlookup.2 hcall)
      | none =>
        simp only [hlookup, Timed.value_map, Except.map_eq_ok_iff, Prod.mk.injEq] at h
        obtain ⟨o', hvalue, rfl, rfl⟩ := h
        exact ⟨⟨hslots, hsurvey⟩, r.tokenAddress, rfl, hvalue, fun call hcall =>
          List.mem_append_right _ (by rw [Timed.asked_map]; exact hcall)⟩
  · -- It is analyzed beside the survey.
    rw [Bool.not_eq_true] at hbase
    simp only [hbase, Bool.not_false, ↓reduceIte, Timed.value_map, Timed.asked_map] at h ⊢
    split at h
    · rename_i o' survey' outcomes hboth
      obtain ⟨rfl, rfl⟩ := Prod.mk.inj (Except.ok.inj h)
      obtain ⟨hvalue, hrun⟩ := (Timed.value_both_eq_ok _ _ _ _).mp hboth
      obtain ⟨hslots, hsurvey, _⟩ := c.surveyor.run_eq_ok _ _ _ _ _ hrun
      rw [htargets] at hslots hsurvey
      refine ⟨⟨hslots, hsurvey⟩, r.tokenAddress, rfl, hvalue, fun call hcall => ?_⟩
      rw [Timed.asked_both]
      exact List.mem_append_left _ hcall
    · cases h

/-- What `work` comes to is the `answer` of an analysis of the address, all of whose questions were
asked, and of the survey of the request if it is to cross chains. -/
theorem work_eq_ok (id : String) (r : Request) (a : Verification) (o : Outcome)
    (h : (c.verifier.work id r).value = .ok (a, o)) :
    (∃ address, address.getD "" = r.addressText ∧
        (c.analyzer.analyze address (c.chainOf r)).value = .ok o ∧
        ∀ call ∈ (c.analyzer.analyze address (c.chainOf r)).asked,
          call ∈ (c.verifier.work id r).asked) ∧
      ∃ survey, a = c.verifier.answer id r o survey ∧ c.Surveyed r survey := by
  simp only [Verifier.work] at h ⊢
  cases hcross : r.crossChain with
  -- The outcome comes with the survey.
  | true =>
    simp only [hcross, ↓reduceIte, Timed.value_map, Except.map_eq_ok_iff, Timed.asked_map] at h ⊢
    obtain ⟨⟨o', survey⟩, hvalue, hpair⟩ := h
    obtain ⟨rfl, rfl⟩ := Prod.mk.inj hpair
    obtain ⟨hsurvey, hanalysis⟩ := c.analyzeWithSurvey_eq_ok r _ _ hvalue
    exact ⟨hanalysis, some survey, rfl, hcross, hsurvey⟩
  -- The outcome comes alone.
  | false =>
    simp only [hcross, Bool.false_eq_true, ↓reduceIte, Timed.value_map, Except.map_eq_ok_iff,
      Timed.asked_map] at h ⊢
    obtain ⟨o', hvalue, hpair⟩ := h
    obtain ⟨rfl, rfl⟩ := Prod.mk.inj hpair
    exact ⟨⟨r.tokenAddress, rfl, hvalue, fun _ hcall => hcall⟩, none, rfl, hcross⟩

/-- What `analyzeWithSurvey` comes to, put together from `analyze` and `surveyOf`. -/
private theorem analyzeWithSurvey_of_analyze (r : Request) (o : Outcome) (survey : Survey)
    (hanalyze : (c.analyzer.analyze r.tokenAddress (c.chainOf r)).value = .ok o)
    (hreached : ∀ o', c.surveyor.reached r.addressText (c.chainOf r) = some (.ok o') → o' = o)
    (hslots : c.surveyor.HasSlots (Surveyor.targets r.chainIds))
    (hsurvey : c.surveyOf r = .ok survey) :
    (c.verifier.analyzeWithSurvey r (c.chainOf r)).value = .ok (o, survey) := by
  have htargets := Surveyor.targets_targets r.chainIds
  have hrun := c.surveyor.value_run r.addressText (some (Surveyor.targets r.chainIds)) (c.chainOf r)
    (by rwa [htargets])
  rw [htargets] at hrun
  replace hrun : (c.verifier.surveyor.run r.addressText (some (Surveyor.targets r.chainIds))
      (c.chainOf r)).value = (c.surveyOf r).map fun survey =>
        (survey, c.surveyor.outcomesOn r.addressText (Surveyor.targets r.chainIds)) := hrun
  rw [hsurvey] at hrun
  -- Where the chain is no target, the two are made side by side.
  have hboth := (Timed.value_both_eq_ok (c.verifier.analyze r.tokenAddress (c.chainOf r)) _ o _).mpr
    ⟨hanalyze, hrun⟩
  simp only [Verifier.analyzeWithSurvey]
  split
  · rw [Timed.value_map, hboth]
  · simp only [Timed.value_bind, hrun, Except.map]
    cases hlookup : (c.surveyor.outcomesOn r.addressText (Surveyor.targets r.chainIds)).lookup
        (c.chainOf r) with
    -- The visit came to nothing, so the chain is analyzed once more.
    | none =>
      simp only [Timed.value_map]
      rw [show (c.verifier.analyze r.tokenAddress (c.chainOf r)).value = .ok o from hanalyze]
    | some o' =>
      -- The visit came to the outcome of the same analysis.
      rw [Surveyor.lookup_outcomesOn] at hlookup
      split at hlookup
      · obtain ⟨_, hvisit⟩ := (c.surveyor.outcome_visitOn_iff _ _ _).mp hlookup
        rw [hreached o' hvisit]
        rfl
      · cases hlookup

/-- The outcome on the requested chain, which its visit comes to as well if it comes to one, and a
survey, if one is asked for, make up what `work` comes to. -/
theorem value_work_of_reached (id : String) (r : Request) (o : Outcome) (survey : Option Survey)
    (hanalyze : (c.analyzer.analyze r.tokenAddress (c.chainOf r)).value = .ok o)
    (hreached : ∀ o', c.surveyor.reached r.addressText (c.chainOf r) = some (.ok o') → o' = o)
    (hsurveyed : c.Surveyed r survey) :
    (c.verifier.work id r).value = .ok (c.verifier.answer id r o survey, o) := by
  cases survey with
  | none =>
    -- A request without a survey is about a single chain.
    have hcross : r.crossChain = false := hsurveyed
    rw [c.value_work_of_single id r hcross, hanalyze]
    rfl
  | some s =>
    obtain ⟨hcross, hslots, hsurvey⟩ := hsurveyed
    have hvalue := c.analyzeWithSurvey_of_analyze r o s hanalyze hreached hslots hsurvey
    simp only [Verifier.work, hcross, ↓reduceIte, Timed.value_map]
    rw [show r.chainOr c.verifier.defaultChainId = c.chainOf r from rfl, hvalue]
    rfl

/-- For an address that is there, the outcome of `analyze` and a survey, if one is asked for, make
up what `work` comes to. -/
theorem value_work (id : String) (r : Request) (text : String) (o : Outcome)
    (survey : Option Survey) (haddress : r.tokenAddress = some text)
    (hanalyze : (c.analyzer.analyze (some text) (c.chainOf r)).value = .ok o)
    (hsurveyed : c.Surveyed r survey) :
    (c.verifier.work id r).value = .ok (c.verifier.answer id r o survey, o) := by
  have htext : r.addressText = text := by simp [Request.addressText, haddress]
  refine c.value_work_of_reached id r o survey (by rw [haddress]; exact hanalyze) ?_ hsurveyed
  -- The visit analyzes the same address.
  intro o' hreached
  have hvalue := c.reached_eq_some _ _ _ hreached
  rw [htext, hanalyze] at hvalue
  exact (Except.ok.inj hvalue).symm

end Scene

/-! ## A plain token

A token with a single owner and verified source that gives the owner no power over holders. Only the
holders are left open.
-/

/-- The address of the plain token and of its owner. -/
def Sources.plainAddress : String := "0x1111111111111111111111111111111111111111"

/-- A request for the plain token on one chain. -/
def Request.plain : Request where
  tokenAddress := some Sources.plainAddress
  chainId := some 1

/-- What is answered about the plain token. -/
def Sources.plain (holders : Except Failure (List Holder)) : Sources where
  code _ _ := { answer := .ok "0x6080" }
  source _ _ := { answer := .ok (some { code := "contract Safe {}" }) }
  holders _ _ _ := { answer := holders }
  creation address _ :=
    { answer := .ok (some { contractAddress := address, creator := .string plainAddress }) }
  label _ _ := { answer := .ok .null }

/-- A scene around the plain token, without limits. -/
def Scene.plain (holders : Except Failure (List Holder)) (nowMs : Int) : Scene where
  analyzer := {
    sources := .plain holders
    callLimit := none
    sampleSize := 10
    scheme := .legacy
    profile := .strict
    detectors := .default
    now := timestamp nowMs }
  chainLimit := none
  slots := 8
  defaultChainId := 1
  nowMs := nowMs

/-- `analyze` finds the plain token wherever its code is at hand, whatever there is of the
source. -/
theorem Analyzer.analyze_plainAddress (a : Analyzer) {chainId : Int}
    (hsupported : Chain.isSupported chainId = true)
    (hcode : a.codeAnswer Sources.plainAddress chainId = .ok "0x6080")
    (hsource : IsRecorded (a.sourceAnswer Sources.plainAddress chainId)) :
    ∃ warnings, (a.analyze (some Sources.plainAddress) chainId).value =
      .ok (a.outcomeOf (a.contractOf Sources.plainAddress chainId)
        ["Address is not checksummed"] warnings
        (a.signalsOf (a.contractOf Sources.plainAddress chainId))) := by
  have hlower : Text.lower Sources.plainAddress = Sources.plainAddress := by decide +kernel
  have hdigits : Bytecode.digits "0x6080" ≠ "" := by decide +kernel
  have h := a.analyze_of_hasCode (some Sources.plainAddress) chainId
    { address := Sources.plainAddress, isValid := true,
      warnings := ["Address is not checksummed"] } rfl rfl hsupported
    -- The code counts because it has digits, whatever the source is.
    ⟨⟨"0x6080", by rw [Option.getD_some, hlower, hcode], hdigits⟩,
      by rw [Option.getD_some, hlower]; exact hsource⟩
  simpa only [Option.getD_some, hlower] using h

namespace Scene

variable (holders : Except Failure (List Holder)) (nowMs : Int)

private abbrev plainContract : Contract where
  address := Sources.plainAddress
  chainId := 1
  bytecode := "0x6080"
  sourceCode := some "contract Safe {}"
  isContract := true

private theorem contractOf_plain :
    (plain holders nowMs).analyzer.contractOf Sources.plainAddress 1 = plainContract := by
  have hcode : (plain holders nowMs).analyzer.codeAnswer Sources.plainAddress 1 =
      .ok "0x6080" := rfl
  have hsource : (plain holders nowMs).analyzer.sourceAnswer Sources.plainAddress 1 =
      .ok (some { code := "contract Safe {}" }) := rfl
  have hdigits : (Bytecode.digits "0x6080").isEmpty = false := by decide +kernel
  simp [Analyzer.contractOf, hcode, hsource, Analyzer.snapshot, Analyzer.reported, hdigits,
    Except.toOption]
  rfl

private theorem plainFindings : Findings.detect .default plainContract = .ok {} := by
  rfl

private theorem plainOwnership :
    Ownership.assess plainContract (.string Sources.plainAddress) .null =
      .ok { owner := some Sources.plainAddress, risks := [Ownership.singleOwnerRisk] } := by
  rfl

/-- `signalsOf` the plain token has its single owner, maybe its holders, and nothing else against
it. -/
theorem signalsOf_plain :
    (plain holders nowMs).analyzer.signalsOf
        ((plain holders nowMs).analyzer.contractOf Sources.plainAddress 1) =
      { ownership := {
          owner := some Sources.plainAddress
          risks := [Ownership.singleOwnerRisk] }
        holders := (plain holders nowMs).analyzer.holdersOf Sources.plainAddress 1 } := by
  -- Nothing is found in the two bytes of code, nor in the source.
  have hstandard : Standard.ofBytecode .strict "0x6080" = {} := by decide +kernel
  have hfindings : Findings.detect (plain holders nowMs).analyzer.detectors plainContract =
      .ok {} := plainFindings
  have hownership : ((plain holders nowMs).analyzer.ownership plainContract).value =
      .ok ({ owner := some Sources.plainAddress, risks := [Ownership.singleOwnerRisk] }, []) :=
    congrArg (Except.map (·, [])) plainOwnership
  rw [contractOf_plain]
  simp only [Analyzer.signalsOf, Analyzer.ownershipOf, Analyzer.findingsOf, hownership, hfindings,
    Except.toOption, Option.getD_some]
  rw [show (plain holders nowMs).analyzer.profile = .strict from rfl, hstandard]

/-- `analyze` comes to the outcome of the plain token's signals. -/
theorem analyze_plain :
    ∃ warnings, ((plain holders nowMs).analyzer.analyze (some Sources.plainAddress) 1).value =
      .ok ((plain holders nowMs).analyzer.outcomeOf
        ((plain holders nowMs).analyzer.contractOf Sources.plainAddress 1)
        ["Address is not checksummed"] warnings
        ((plain holders nowMs).analyzer.signalsOf
          ((plain holders nowMs).analyzer.contractOf Sources.plainAddress 1))) :=
  Analyzer.analyze_plainAddress _ (by decide) rfl (Analyzer.isRecorded_ok _)

/-- `work` on the plain token comes to a safe decision exactly if its holders are not
concentrated. -/
theorem work_plain (id : String) :
    ∃ a o, ((plain holders nowMs).verifier.work id .plain).value = .ok (a, o) ∧ o.isSettled = true ∧
      (a.decision.isSafe = true ↔
        ((plain holders nowMs).analyzer.holdersOf Sources.plainAddress 1).isConcentrated =
          false) := by
  obtain ⟨warnings, hvalue⟩ := analyze_plain holders nowMs
  have hwork := value_work_of_single (plain holders nowMs) id .plain rfl
  rw [show (plain holders nowMs).chainOf .plain = 1 from rfl,
    show Request.plain.tokenAddress = some Sources.plainAddress from rfl, hvalue] at hwork
  refine ⟨_, _, hwork, Analyzer.isSettled_outcomeOf _ _ _ warnings _, ?_⟩
  show (Decision.decide _ none).isSafe = true ↔ _
  rw [Decision.isSafe_decide_iff, Analyzer.analysis_outcomeOf, signalsOf_plain]
  constructor
  · intro h
    exact h.1.spread
  · -- Spread holders cost too little to bring the score below that of a low level.
    intro hspread
    have hfew := (plain holders nowMs).analyzer.length_risks_holdersOf _ _ hspread
    have hcost := Holders.cost_of_spread _ hspread (by omega)
    refine ⟨⟨rfl, ?_, rfl, hspread⟩, by simp⟩
    show Level.ofScore (Signals.score {} _) = .low
    have hscore := Signals.score_le_of_costs
      { ownership := { owner := some Sources.plainAddress, risks := [Ownership.singleOwnerRisk] }
        holders := (plain holders nowMs).analyzer.holdersOf Sources.plainAddress 1 }
      { ownership := { owner := some Sources.plainAddress, risks := [Ownership.singleOwnerRisk] } }
      rfl (Int.le_refl _) (Int.le_of_eq hcost) rfl
    rw [Level.ofScore_eq_low_iff]
    exact Int.le_trans (by decide) hscore

/-- The holders of the plain token are those that are answered, summarized by
`Holders.summarize`. -/
theorem value_holders_plain (l : List Holder) :
    ((plain (.ok l) nowMs).analyzer.holders Sources.plainAddress 1).value =
      (Holders.summarize {} (Holders.sample 10 l)).map (·, []) := rfl

/-- If nobody is known to hold the plain token, `holdersOf` it is not concentrated. -/
theorem isConcentrated_plain_nil :
    ((plain (.ok []) nowMs).analyzer.holdersOf Sources.plainAddress 1).isConcentrated = false := by
  rw [Analyzer.holdersOf, value_holders_plain, Holders.summarize_sample_nil]
  rfl

end Scene

end TokenRisk
