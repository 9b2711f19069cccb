import TokenRisk.Proofs.Decision
import TokenRisk.Proofs.Isolation
import TokenRisk.Proofs.Severity

/-!
# When a token appears safe

The advice on a survey is a list of rules over its counts, and each rule speaks for itself. So a
token may appear safe on all verified chains when it is verified on none: unverified source does not
keep the level of risk from being the lowest, if a group of signers makes up for it. This file shows
that there is no other way, what else the token must look like, and that no verdict goes by the
line.

## Key results

- `Survey.appearsSafe_mem_iff`, `Survey.unverified_mem_iff`, `Survey.missing_mem_iff`: by which
  counts a line is in the advice
- `Analyzer.isMultisig_of_unverified`: at the lowest level without verified source there is a group
  of signers
- `Circumstances.appears_safe`: what is known of a token that appears safe
-/

namespace TokenRisk

/-! ## Lines of advice -/

namespace Survey

variable (s : Survey)

/-- What the lines of `Survey.advice` that name a number end in. -/
private def countedEndings : List String :=
  [" chain(s)", " wrapped version(s) detected", " version(s) not verified - increased risk"]

/-- A line that does not end as the `countedEndings` do is one of the others. -/
private theorem mem_advice_iff {line : String}
    (h : ∀ rest ∈ countedEndings, ¬ rest.toList <:+ line.toList) :
    line ∈ s.advice ↔
      4 < s.found ∧ line = "Token deployed on many chains - verify legitimacy of all versions" ∨
      s.verified = 0 ∧ line = "No verified versions found - do not interact" ∨
      s.bridgeIndicators.isEmpty = false ∧ line = "Potential cross-chain bridge token detected" ∨
      s.found = 0 ∧ line = "Token not found on any network" ∨
      s.found = 1 ∧ line = "Token exists on single chain only" ∨
      (s.found ≠ 0 ∧ s.found ≠ 1 ∧ s.highRisk = 0 ∧ s.mediumRisk ≤ 1) ∧
        line = "Token appears safe on all verified chains" := by
  -- What ends in something else is none of the lines that name a number, whatever the number is.
  have hcounted (front rest : String) (hrest : rest ∈ countedEndings) : line ≠ front ++ rest := by
    rintro rfl
    exact h rest hrest ⟨front.toList, String.toList_append.symm⟩
  have hhigh : line ≠ s!"Token rated HIGH or CRITICAL risk on {s.highRisk} chain(s)" :=
    hcounted _ _ (by decide)
  have hwrapped : line ≠ s!"Token has {s.wrapped.length} wrapped version(s) detected" :=
    hcounted _ _ (by decide)
  have hunverified :
      line ≠ s!"{s.found - s.verified} version(s) not verified - increased risk" :=
    hcounted _ _ (by decide)
  -- Of the lines at the end there is one at most.
  have hclosing : (line ∈ if s.found = 0 then ["Token not found on any network"]
      else if s.found = 1 then ["Token exists on single chain only"]
      else adviceIf (s.highRisk = 0 && s.mediumRisk ≤ 1)
        "Token appears safe on all verified chains") ↔
      s.found = 0 ∧ line = "Token not found on any network" ∨
      s.found = 1 ∧ line = "Token exists on single chain only" ∨
      (s.found ≠ 0 ∧ s.found ≠ 1 ∧ s.highRisk = 0 ∧ s.mediumRisk ≤ 1) ∧
        line = "Token appears safe on all verified chains" := by
    by_cases hnone : s.found = 0
    · simp [hnone]
    · by_cases hone : s.found = 1
      · simp [hone]
      · simp [hnone, hone, mem_adviceIf]
  simp only [advice, List.mem_append, mem_adviceIf, hclosing, hhigh, hwrapped, hunverified,
    and_false, or_false, false_or, or_assoc, decide_eq_true_eq, Bool.not_eq_eq_eq_not,
    Bool.not_true]

/-- The line that the token appears safe is in `advice` if it is found on several chains, on none of
them at a high level and on one at the medium level at most. -/
theorem appearsSafe_mem_iff :
    "Token appears safe on all verified chains" ∈ s.advice ↔
      s.found ≠ 0 ∧ s.found ≠ 1 ∧ s.highRisk = 0 ∧ s.mediumRisk ≤ 1 := by
  rw [s.mem_advice_iff (by decide +kernel)]
  simp

/-- The line that warns of the token is in `advice` if it is verified on no chain. -/
theorem unverified_mem_iff :
    "No verified versions found - do not interact" ∈ s.advice ↔ s.verified = 0 := by
  rw [s.mem_advice_iff (by decide +kernel)]
  simp

/-- The line that the token is missing is in `advice` if it is found on no chain. -/
theorem missing_mem_iff : "Token not found on any network" ∈ s.advice ↔ s.found = 0 := by
  rw [s.mem_advice_iff (by decide +kernel)]
  simp

end Survey

/-! ## The lowest level without verified source -/

/-- `Findings.detect` counts source that is not verified as a risk. -/
private theorem Findings.riskCount_detect {detectors : Detectors} {contract : Contract}
    {f : Findings} (h : detect detectors contract = .ok f) (hunverified : f.unverifiedCode = true) :
    1 ≤ f.riskCount := by
  obtain ⟨hits, _, hflags⟩ := Except.bind_eq_ok_iff.mp h
  split at hflags
  · cases hflags
  · cases hflags
    rw [show (!contract.hasSource) = true from hunverified]
    simp only [ofHits, ↓reduceIte, List.length_append, List.length_cons, List.length_nil]
    omega

/-- Nothing speaks against a token but its `Ownership.singleOwnerRisk` and source that is not
verified. -/
def Signals.unsourced : Signals where
  standard := { isERC20 := true }
  ownership := { risks := [Ownership.singleOwnerRisk] }
  findings := { unverifiedCode := true, risks := [Findings.unverifiedRisk], riskCount := 1 }

/-- Of all that may be found without verified source and without a group of signers, `unsourced` is
the least risky. -/
private theorem Signals.isNoRiskierThan_unsourced {s : Signals}
    (hsingle : s.ownership.isMultisig = false) (hcontrol : s.ownership.risks ≠ [])
    (hunverified : s.findings.unverifiedCode = true) (hcount : 1 ≤ s.findings.riskCount) :
    unsourced.IsNoRiskierThan s := by
  constructor
  case isERC20 => exact fun _ => rfl
  case ownership =>
    refine ⟨List.length_pos_iff.mpr hcontrol, (fun h => by cases h), fun h => ?_⟩
    rw [hsingle] at h
    cases h
  case holders => exact ⟨Nat.zero_le _, fun h => by cases h⟩
  case findings =>
    constructor
    case unverifiedCode => exact fun _ => hunverified
    case proxyPatterns => exact fun h => absurd rfl h
    case riskCount => exact hcount
    -- Nothing else is found in `unsourced`, so nothing else has to be found here.
    all_goals exact fun h => by cases h

namespace Analyzer

variable (a : Analyzer)

/-- In `findingsOf` a contract, too, source that is not verified counts as a risk. -/
theorem riskCount_findingsOf (contract : Contract)
    (h : (a.findingsOf contract).unverifiedCode = true) :
    1 ≤ (a.findingsOf contract).riskCount := by
  rw [findingsOf] at h ⊢
  cases hdetect : Findings.detect a.detectors contract with
  | error f => exact Int.le_refl 1
  | ok f =>
    rw [hdetect] at h
    exact Findings.riskCount_detect hdetect h

/-- `ownershipOf` has a remark on control by anyone but a group of signers. -/
theorem risks_ownershipOf_ne_nil (contract : Contract)
    (hsingle : (a.ownershipOf contract).isMultisig = false) :
    (a.ownershipOf contract).risks ≠ [] := by
  rw [ownershipOf_eq] at hsingle ⊢
  split at hsingle
  -- Where nothing is known of the creation, the remark says that.
  · exact List.cons_ne_nil _ _
  · exact List.cons_ne_nil _ _
  · rename_i creation _
    cases hassess : (a.creatorLabel creation.creator contract.chainId).value >>= fun l =>
        Ownership.assess contract creation.creator l.1 with
    | error f => exact List.cons_ne_nil _ _
    | ok o =>
      rw [hassess] at hsingle
      obtain ⟨l, _, ho⟩ := Except.bind_eq_ok_iff.mp hassess
      -- What was assessed and is no group is remarked as a single owner.
      show o.risks ≠ []
      rw [(Ownership.isAssessed_of_ok _ _ _ _ ho).risks, show o.isMultisig = false from hsingle]
      simp [Ownership.risksOf]

/-- At the lowest level without verified source there is a group of signers, as `unsourced` does not
reach that level. -/
theorem isMultisig_of_unverified (contract : Contract)
    (hunverified : (a.findingsOf contract).unverifiedCode = true)
    (hlow : Level.ofScore ((a.signalsOf contract).score {}) = .low) :
    (a.ownershipOf contract).isMultisig = true := by
  cases hmultisig : (a.ownershipOf contract).isMultisig with
  | true => rfl
  | false =>
    have hrisk : Signals.unsourced.IsNoRiskierThan (a.signalsOf contract) :=
      Signals.isNoRiskierThan_unsourced hmultisig (a.risks_ownershipOf_ne_nil contract hmultisig)
        hunverified (a.riskCount_findingsOf contract hunverified)
    -- Even the least risky of such tokens misses the level by two points.
    have hbest : Signals.unsourced.score {} = 78 := by decide
    have hscore := Signals.score_le Weights.isPenal_default hrisk
    rw [Level.ofScore_eq_low_iff] at hlow
    omega

end Analyzer

/-! ## Surveys on which a token appears safe -/

/-- What is known of the chains of a survey whose token is verified on none of them: each is at the
medium level, or at the lowest with a group of signers behind the token, and no verdict calls the
token safe. -/
structure Survey.IsVouchedFor (s : Survey) : Prop where
  level : ∀ r ∈ s.records, ∀ a, r.analysis = some a →
    a.level = .medium ∨ a.level = .low ∧ a.signals.ownership.isMultisig = true
  undecided : ∀ a, (Decision.decide a (some s)).isSafe = false

/-- What a survey must be like for its `advice` to say that the token appears safe. -/
structure Survey.AppearsSafe (s : Survey) : Prop where
  deployed : ∃ ids : List Int, ids.Nodup ∧ 2 ≤ ids.length ∧
    ∀ id ∈ ids, ∃ r ∈ s.records, r.chainId = id ∧ r.isFound = true
  highRisk : s.highRisk = 0
  mediumRisk : s.mediumRisk ≤ 1
  notMissing : "Token not found on any network" ∉ s.recommendations
  warned : "No verified versions found - do not interact" ∈ s.recommendations ↔ s.verified = 0
  vouched : s.verified = 0 → s.IsVouchedFor

/-- There are as many chains with the token as `foundCount` says. -/
private theorem ChainRecord.exists_chains (records : List ChainRecord)
    (honce : (records.map ChainRecord.chainId).Nodup) :
    ∃ ids : List Int, ids.Nodup ∧ ids.length = foundCount records ∧
      ∀ id ∈ ids, ∃ r ∈ records, r.chainId = id ∧ r.isFound = true := by
  refine ⟨(records.filter ChainRecord.isFound).map ChainRecord.chainId, ?_, ?_, ?_⟩
  · exact honce.sublist (List.filter_sublist.map ChainRecord.chainId)
  · rw [List.length_map, foundCount, List.countP_eq_length_filter]
  · intro id hid
    obtain ⟨r, hr, rfl⟩ := List.mem_map.mp hid
    obtain ⟨hr, hfound⟩ := List.mem_filter.mp hr
    exact ⟨r, hr, rfl, hfound⟩

namespace Survey

variable {now address : String} {baseChainId : Int} {records : List ChainRecord} {survey : Survey}
  (h : ofRecords now address baseChainId records = .ok survey)

include h

private theorem recommendations_ofRecords : survey.recommendations = survey.advice := by
  obtain ⟨wrapped, _, hsurvey⟩ := Except.bind_eq_ok_iff.mp h
  cases hsurvey
  rfl

/-- Where no analysis `isHigh` and none has verified source, each is at the `medium` level, or has a
group of signers behind it. -/
private theorem level_of_unverified (hhigh : survey.highRisk = 0) (hverified : survey.verified = 0)
    (hmultisig : ∀ r ∈ records, ∀ a, r.analysis = some a →
      a.signals.findings.unverifiedCode = true → a.level = .low →
        a.signals.ownership.isMultisig = true) {r : ChainRecord} (hr : r ∈ records) {a : Analysis}
    (ha : r.analysis = some a) :
    a.level = .medium ∨ a.level = .low ∧ a.signals.ownership.isMultisig = true := by
  obtain ⟨_, _, hverifiedCount, hhighCount⟩ := ofRecords_eq_ok _ _ _ _ _ h
  have hunverified : a.signals.findings.unverifiedCode = true := by
    cases hflag : a.signals.findings.unverifiedCode with
    | true => rfl
    | false =>
      -- Verified source on any chain would count.
      have hpos := (ChainRecord.verifiedCount_pos_iff records).mpr ⟨r, hr, a, ha, hflag⟩
      omega
  cases hlevel : a.level with
  | low => exact .inr ⟨rfl, hmultisig r hr a ha hunverified hlevel⟩
  | medium => exact .inl rfl
  | _ =>
    -- So would a high level.
    have hpos := (ChainRecord.highRiskCount_pos_iff records).mpr
      ⟨r, hr, a, ha, by rw [hlevel]; rfl⟩
    omega

/-- Where the lowest level takes verified source or a group of signers, records on which the token
appears safe add up to a survey that `AppearsSafe`. -/
private theorem appearsSafe_ofRecords (honce : (records.map ChainRecord.chainId).Nodup)
    (hmultisig : ∀ r ∈ records, ∀ a, r.analysis = some a →
      a.signals.findings.unverifiedCode = true → a.level = .low →
        a.signals.ownership.isMultisig = true)
    (hsafe : "Token appears safe on all verified chains" ∈ survey.recommendations) :
    survey.AppearsSafe := by
  obtain ⟨hrecords, hfound, _, _⟩ := ofRecords_eq_ok _ _ _ _ _ h
  have hadvice := recommendations_ofRecords h
  rw [hadvice, appearsSafe_mem_iff] at hsafe
  obtain ⟨hsome, hseveral, hhigh, hmedium⟩ := hsafe
  constructor
  case deployed =>
    -- There are as many chains as the survey counts, so several.
    obtain ⟨ids, hids, hlength, hchains⟩ := ChainRecord.exists_chains records honce
    exact ⟨ids, hids, by omega, hrecords ▸ hchains⟩
  case highRisk => exact hhigh
  case mediumRisk => exact hmedium
  case notMissing =>
    rw [hadvice, missing_mem_iff]
    exact hsome
  case warned => rw [hadvice, unverified_mem_iff]
  case vouched =>
    intro hverified
    constructor
    case level =>
      rw [hrecords]
      -- What counts are records without verified source.
      exact fun r hr a ha => level_of_unverified h hhigh hverified hmultisig hr ha
    case undecided =>
      intro a
      rw [← Bool.not_eq_true, Decision.isSafe_decide_iff]
      exact fun hsound => (hsound.2 _ rfl).verified hverified

end Survey

namespace Circumstances

variable {a : Analyzer} {chainLimit : Option Number} {x : Circumstances} {address : String}

/-- What `visitOn` found without verified source at the lowest level has a group of signers behind
it. -/
private theorem isMultisig_visitOn {id : Int} {found : Analysis}
    (h : ((x.surveyor a chainLimit).visitOn address id).1.analysis = some found)
    (hunverified : found.signals.findings.unverifiedCode = true) (hlow : found.level = .low) :
    found.signals.ownership.isMultisig = true := by
  obtain ⟨o, ho, hnot, rfl⟩ := (Surveyor.analysis_visitOn_iff _ _ _ _).mp h
  obtain ⟨_, hreached⟩ := (Surveyor.outcome_visitOn_iff _ _ _ _).mp ho
  have hvalue := (Surveyor.reached_eq_some _ _ _ _ hreached).1
  simp only [surveyor, Analyze.breakingOff] at hvalue
  split at hvalue
  · -- An analysis that breaks off finds nothing.
    cases hvalue
  · rcases (a.asking x.sources).analyze_cases (some address) id o hvalue with
      ⟨text, f, warnings, advice, rfl⟩ | ⟨check, _, _, _, _, warnings, rfl⟩
    · -- A placeholder is not at the lowest level.
      rw [Analyzer.isFailed_failure] at hnot
      cases hnot
    · rw [Analyzer.analysis_outcomeOf] at hunverified hlow ⊢
      exact Analyzer.isMultisig_of_unverified _ _ hunverified hlow

/-- If a run advises that the token appears safe, the survey `AppearsSafe`: it is found on at least
two chains, on none of them at a high level, and the advice does not say that it is missing. It may
say at the same time that the token is verified on no chain, and then that is so: at most one of its
levels is medium, at all others there is a group of signers behind it, and no verdict calls it
safe. -/
theorem appears_safe (a : Analyzer) (chainLimit : Option Number) (x : Circumstances)
    (address : String) (survey : Survey) (outcomes : List (Int × Outcome))
    (hrun : ((x.surveyor a chainLimit).run address x.chainIds x.baseChainId).value =
      .ok (survey, outcomes))
    (hsafe : "Token appears safe on all verified chains" ∈ survey.recommendations) :
    survey.AppearsSafe := by
  obtain ⟨_, hsurvey, _⟩ := (x.surveyor a chainLimit).run_eq_ok _ _ _ _ _ hrun
  refine Survey.appearsSafe_ofRecords hsurvey ?_ ?_ hsafe
  · rw [Surveyor.map_chainId_visitOn]
    exact Surveyor.nodup_targets x.chainIds
  · intro r hr found hfound
    obtain ⟨id, _, rfl⟩ := List.mem_map.mp hr
    exact isMultisig_visitOn hfound

end Circumstances

/-! ## A token that is vouched for

The plain token is deployed on two chains without verified source, and its creator is the safe of a
group.
-/

/-- What is answered about a token without source whose creator is labelled as a safe. -/
def Sources.vouched : Sources :=
  { Sources.plain (.ok []) with
    source := fun _ _ => { answer := .ok none }
    label := fun _ _ => { answer := .ok (.string "Gnosis Safe") } }

/-- Nothing speaks against the token of `Sources.vouched` but that its source is not verified and
its holders are not known. -/
def Signals.vouched : Signals where
  ownership := {
    owner := some Sources.plainAddress
    isMultisig := true
    ownerLabel := some "Gnosis Safe" }
  holders := { risks := [Holders.noHoldersRisk] }
  findings := { unverifiedCode := true, risks := [Findings.unverifiedRisk], riskCount := 1 }

namespace Circumstances

/-- A survey of the two chains, without any other trouble. -/
def vouched : Circumstances where
  sources := .vouched
  failures _ := none
  chainIds := some [1, 56]
  baseChainId := 1
  slots := 8

/-- The analyzer of the plain scene, for such a token. -/
abbrev vouchedAnalyzer : Analyzer :=
  (Scene.plain (.ok []) 0).analyzer.asking .vouched

/-- What is fetched about the token. -/
abbrev vouchedContract (chainId : Int) : Contract where
  address := Sources.plainAddress
  chainId := chainId
  bytecode := "0x6080"
  isContract := true

theorem contractOf_vouched (chainId : Int) :
    vouchedAnalyzer.contractOf Sources.plainAddress chainId = vouchedContract chainId := by
  have hcode : vouchedAnalyzer.codeAnswer Sources.plainAddress chainId = .ok "0x6080" := rfl
  have hsource : vouchedAnalyzer.sourceAnswer Sources.plainAddress chainId = .ok none := rfl
  have hdigits : (Bytecode.digits "0x6080").isEmpty = false := by decide +kernel
  simp [Analyzer.contractOf, hcode, hsource, Analyzer.snapshot, Analyzer.reported, hdigits,
    Except.toOption]
  rfl

theorem signalsOf_vouched {chainId : Int} (hid : chainId ∈ [(1 : Int), 56]) :
    vouchedAnalyzer.signalsOf (vouchedContract chainId) = .vouched := by
  -- What takes no lookup is computed on both chains at once.
  have hfindings : ∀ id ∈ [(1 : Int), 56], vouchedAnalyzer.findingsOf (vouchedContract id) =
      Signals.vouched.findings := by decide +kernel
  have hassess : ∀ id ∈ [(1 : Int), 56], Ownership.orFailed (Ownership.assess (vouchedContract id)
      (.string Sources.plainAddress) (.string "Gnosis Safe")) = Signals.vouched.ownership := by
    decide +kernel
  have hownership : vouchedAnalyzer.ownershipOf (vouchedContract chainId) =
      Signals.vouched.ownership := by
    have hlabel : (vouchedAnalyzer.creatorLabel (.string Sources.plainAddress) chainId).value =
        .ok (.string "Gnosis Safe", []) := rfl
    have hcreation : vouchedAnalyzer.creationAnswer Sources.plainAddress chainId =
        .ok (some {
          contractAddress := Sources.plainAddress
          creator := .string Sources.plainAddress }) := rfl
    rw [Analyzer.ownershipOf_eq]
    simp only [hcreation, hlabel, bind, Except.bind]
    exact hassess chainId hid
  -- Nobody holds the token, so there are no shares to rank.
  have hholders : vouchedAnalyzer.holdersOf Sources.plainAddress chainId =
      Signals.vouched.holders := by
    have hanswer : vouchedAnalyzer.holdersAnswer Sources.plainAddress chainId = .ok [] := rfl
    simp only [Analyzer.holdersOf, Analyzer.value_holders, hanswer, Holders.summarize_sample_nil]
    rfl
  have hstandard : Standard.ofBytecode .strict "0x6080" = {} := by decide +kernel
  rw [Analyzer.signalsOf, hfindings chainId hid, hownership, hholders,
    show vouchedAnalyzer.profile = .strict from rfl, hstandard]
  rfl

/-- The `Surveyor` of the plain scene, for the token of `Sources.vouched`. -/
abbrev vouchedSurveyor : Surveyor :=
  vouched.surveyor (Scene.plain (.ok []) 0).analyzer none

/-- On either chain the token is found at the lowest level, with the signals `Signals.vouched`. -/
private theorem analysis_vouched {chainId : Int} (hid : chainId ∈ [(1 : Int), 56]) :
    ∃ found,
      (vouchedSurveyor.visitOn Sources.plainAddress chainId).1.analysis = some found ∧
      found.signals = .vouched ∧ found.level = .low ∧ found.contractName = .null := by
  -- Both chains are supported, and the analysis does not depend on which of them it is.
  have hsupported : Chain.isSupported chainId = true := by
    have hall : ∀ id ∈ [(1 : Int), 56], Chain.isSupported id = true := by decide
    exact hall chainId hid
  obtain ⟨warnings, hvalue⟩ := vouchedAnalyzer.analyze_plainAddress hsupported rfl
    (Analyzer.isRecorded_ok _)
  rw [contractOf_vouched, signalsOf_vouched hid] at hvalue
  have houtcome := (vouchedSurveyor.outcome_visitOn_iff Sources.plainAddress chainId _).mpr
    ⟨hsupported, congrArg some hvalue⟩
  refine ⟨_, (Surveyor.analysis_visitOn_iff _ _ _ _).mpr ⟨_, houtcome,
    Analyzer.isFailed_outcomeOf _ _ _ _ _, Analyzer.analysis_outcomeOf _ _ _ _ _⟩, rfl, ?_, rfl⟩
  show Level.ofScore (Signals.vouched.score {}) = .low
  decide

/-- The survey of `vouched` finds the token on both chains, nowhere verified, and at the `low`
level. -/
private theorem exists_run_vouched : ∃ survey outcomes,
    (vouchedSurveyor.run Sources.plainAddress vouched.chainIds vouched.baseChainId).value =
      .ok (survey, outcomes) ∧
    survey.verified = 0 ∧
    "Token appears safe on all verified chains" ∈ survey.recommendations := by
  have hslots : vouchedSurveyor.HasSlots (Surveyor.targets vouched.chainIds) :=
    .inl (show (0 : Int) < 8 by decide)
  obtain ⟨found, hfound, hsignals, hlow, hname⟩ :=
    analysis_vouched (show (1 : Int) ∈ [(1 : Int), 56] by decide)
  obtain ⟨found', hfound', hsignals', hlow', hname'⟩ :=
    analysis_vouched (show (56 : Int) ∈ [(1 : Int), 56] by decide)
  -- The survey has a record of each chain, and no names that it could stumble over.
  have hrecords : (Surveyor.targets vouched.chainIds).map
      (fun id => (vouchedSurveyor.visitOn Sources.plainAddress id).1) =
        [(vouchedSurveyor.visitOn Sources.plainAddress 1).1,
          (vouchedSurveyor.visitOn Sources.plainAddress 56).1] := rfl
  obtain ⟨survey, hsurvey⟩ := (Survey.ofRecords_isOk_iff vouchedSurveyor.now
    (Text.lower Sources.plainAddress) vouched.baseChainId
    [(vouchedSurveyor.visitOn Sources.plainAddress 1).1,
      (vouchedSurveyor.visitOn Sources.plainAddress 56).1]).mpr (by
    have hnull : Wrapped.IsReadable .null := ⟨none, rfl⟩
    simp [hfound, hfound', hname, hname', hnull])
  refine ⟨survey, vouchedSurveyor.outcomesOn Sources.plainAddress
    (Surveyor.targets vouched.chainIds), ?_, ?_⟩
  · rw [vouchedSurveyor.value_run _ _ _ hslots, hrecords, hsurvey]
    rfl
  · obtain ⟨wrapped, _, hsum⟩ := Except.bind_eq_ok_iff.mp hsurvey
    cases hsum
    have hunverified : Signals.vouched.findings.unverifiedCode = true := rfl
    -- All parts of what makes a token appear safe hold, though nothing of it is verified.
    refine ⟨?_, (Survey.appearsSafe_mem_iff _).mpr ?_⟩
    · simp [ChainRecord.verifiedCount, ChainRecord.analyses, hfound, hfound', hsignals, hsignals',
        hunverified]
    · simp [ChainRecord.foundCount, ChainRecord.highRiskCount, ChainRecord.mediumRiskCount,
        ChainRecord.analyses, Surveyor.isFound_visitOn, hfound, hfound', hlow, hlow', Level.isHigh]

/-- The advice of the survey of `vouched` is that the token appears safe on all verified chains, and
not to interact with it as it is verified on none. -/
theorem advice_contradicts_itself : ∃ survey outcomes,
    (vouchedSurveyor.run Sources.plainAddress vouched.chainIds vouched.baseChainId).value =
      .ok (survey, outcomes) ∧
    "Token appears safe on all verified chains" ∈ survey.recommendations ∧
    "No verified versions found - do not interact" ∈ survey.recommendations ∧
    survey.verified = 0 := by
  obtain ⟨survey, outcomes, hrun, hverified, hsafe⟩ := exists_run_vouched
  refine ⟨survey, outcomes, hrun, hsafe, ?_, hverified⟩
  obtain ⟨_, hsurvey, _⟩ := vouchedSurveyor.run_eq_ok _ _ _ _ _ hrun
  rw [Survey.recommendations_ofRecords hsurvey, Survey.unverified_mem_iff]
  exact hverified

/-- Still the survey `AppearsSafe` and `IsVouchedFor`: the token is found on both chains at the
lowest level, its owner is the safe of a group, and no verdict calls it safe. -/
theorem vouched_appears_safe : ∃ survey outcomes,
    (vouchedSurveyor.run Sources.plainAddress vouched.chainIds vouched.baseChainId).value =
      .ok (survey, outcomes) ∧
    "Token appears safe on all verified chains" ∈ survey.recommendations ∧
    survey.AppearsSafe ∧ survey.IsVouchedFor := by
  obtain ⟨survey, outcomes, hrun, hverified, hsafe⟩ := exists_run_vouched
  have happears := appears_safe _ _ vouched _ survey outcomes hrun hsafe
  exact ⟨survey, outcomes, hrun, hsafe, happears, happears.vouched hverified⟩

end Circumstances

end TokenRisk
