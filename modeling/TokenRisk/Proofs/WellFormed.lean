import TokenRisk.Proofs.Concentration
import TokenRisk.Proofs.Consistency
import TokenRisk.Proofs.LetterCase
import TokenRisk.Proofs.Loss
import TokenRisk.Proofs.Verifier

/-!
# Well-formed analyses

An analysis is put together on several ways: in full, with cautious defaults for some of its parts,
or as a placeholder for one that could not run. Whichever way it took, its fields agree with each
other. The parts come first, each for whatever its answers say, and with them their defaults.

## Key results

- `Standard.percentage_bounds`: a confidence is a whole percentage
- `Analyzer.isSound_signalsOf`: the signals of a contract are sound, defaults or not
- `Analyzer.analyze_isWellFormed`: so is every analysis, and its error tells whether it failed
-/

namespace TokenRisk

/-! ## Signs -/

namespace Binary64

/-- `ofUnits` keeps the sign. -/
theorem negative_of_ofUnits (negative : Bool) (num den : Nat) (x : Finite)
    (h : ofUnits negative num den = .finite x) : x.negative = negative := by
  have hparts (m e : Nat) (h : ofParts negative m e = .finite x) : x.negative = negative := by
    simp only [ofParts] at h
    split at h
    · rw [← Binary64.finite.inj h]
    · cases h
  simp only [ofUnits] at h
  split at h
  · exact hparts _ _ h
  · exact hparts _ _ h

/-- `Finite.round` of a double without a sign is not negative. -/
private theorem round_nonneg (x : Finite) (h : x.negative = false) : 0 ≤ x.round := by
  rw [Finite.round, h]
  exact Int.natCast_nonneg _

end Binary64

/-! ## Standards -/

namespace Standard

/-- The names of the standards with their flags, in the order in which they are displayed. -/
def flags (s : Standard) : List (String × Bool) :=
  [("ERC20", s.isERC20), ("ERC721", s.isERC721), ("ERC1155", s.isERC1155)]

/-- The confidence is a whole percentage, and the standard on display is the first whose flag is
set. -/
structure IsSound (s : Standard) : Prop where
  confidence : 0 ≤ s.confidence ∧ s.confidence ≤ 100
  detectedType : s.detectedType = ((s.flags.find? (·.2)).map (·.1)).getD "Unknown"

theorem isSound_default : IsSound {} :=
  ⟨⟨Int.le_refl 0, by decide⟩, rfl⟩

/-- `percentage` rounds twice, then brings to a whole number and cuts off at a hundred. -/
theorem percentage_of_finite {detected references : Nat} {share percent : Binary64.Finite}
    (hshare : Binary64.ofRatio false detected references = .finite share)
    (hpercent : share.scale 100 = .finite percent) :
    percentage detected references = min 100 percent.round := by
  -- Opened as a function, since applied to numbers it would be computed with.
  obtain ⟨f, hf⟩ : ∃ f, f = percentage := ⟨_, rfl⟩
  rw [← hf]
  delta percentage at hf
  simp only [hf, hshare, hpercent]

/-- `percentage` is a hundred where it is out of range. -/
theorem percentage_cases (detected references : Nat) :
    percentage detected references = 100 ∨ ∃ share percent : Binary64.Finite,
      Binary64.ofRatio false detected references = .finite share ∧
        share.scale 100 = .finite percent := by
  -- Opened as in `percentage_of_finite`, for the same reason.
  obtain ⟨f, hf⟩ : ∃ f, f = percentage := ⟨_, rfl⟩
  rw [← hf]
  delta percentage at hf
  simp only [hf]
  generalize Binary64.ofRatio false detected references = share
  cases share with
  | nan => exact .inl rfl
  | infinite negative => exact .inl rfl
  | finite share =>
    cases hpercent : share.scale 100 with
    | nan => simp [hpercent]
    | infinite negative => simp [hpercent]
    | finite percent => exact .inr ⟨share, percent, rfl, hpercent⟩

theorem percentage_bounds (detected references : Nat) :
    0 ≤ percentage detected references ∧ percentage detected references ≤ 100 := by
  rcases percentage_cases detected references with h | ⟨share, percent, hshare, hpercent⟩
  · rw [h]
    decide
  · have hsign : percent.negative = false := by
      rw [Binary64.negative_of_ofUnits _ _ _ _ hpercent,
        Binary64.negative_of_ofUnits _ _ _ _ hshare]
    have hround := Binary64.round_nonneg percent hsign
    rw [percentage_of_finite hshare hpercent]
    exact ⟨Int.le_min.mpr ⟨by decide, hround⟩, Int.min_le_left _ _⟩

theorem confidenceOf_bounds (p : Profile) (detected : Nat) :
    0 ≤ confidenceOf p detected ∧ confidenceOf p detected ≤ 100 := by
  simp only [confidenceOf]
  split
  · decide
  · exact percentage_bounds _ _

/-- `displayedType` is the name of the first flag that is set. -/
private theorem displayedType_eq_find (erc20 erc721 erc1155 : Bool) :
    displayedType erc20 erc721 erc1155 =
      ((([("ERC20", erc20), ("ERC721", erc721), ("ERC1155", erc1155)] : List (String × Bool)).find?
        (·.2)).map (·.1)).getD "Unknown" := by
  cases erc20 <;> cases erc721 <;> cases erc1155 <;> rfl

theorem isSound_ofBytecode (p : Profile) (code : String) : (ofBytecode p code).IsSound := by
  simp only [ofBytecode]
  split
  · exact isSound_default
  · exact ⟨confidenceOf_bounds _ _, displayedType_eq_find _ _ _⟩

end Standard

/-! ## Findings -/

/-- `riskCount` is the number of `risks`. -/
def Findings.IsSound (f : Findings) : Prop :=
  f.riskCount = f.risks.length

theorem Findings.isSound_detect (detectors : Detectors) (contract : Contract) (f : Findings)
    (h : detect detectors contract = .ok f) : f.IsSound := by
  obtain ⟨hits, _, hflags⟩ := Except.bind_eq_ok_iff.mp h
  split at hflags
  · cases hflags
  · cases hflags
    rfl

/-! ## Signals -/

/-- Each part of the signals is sound. -/
structure Signals.IsSound (s : Signals) : Prop where
  standard : s.standard.IsSound
  holders : s.holders.IsSound
  findings : s.findings.IsSound

namespace Analyzer

variable (a : Analyzer)

theorem isSound_holdersOf (address : String) (chainId : Int) :
    (a.holdersOf address chainId).IsSound := by
  rw [holdersOf, value_holders]
  cases a.holdersAnswer address chainId with
  | error f =>
    simp only []
    split <;> exact Holders.isSound_of_risks _
  | ok l =>
    simp only []
    cases hs : Holders.summarize {} (Holders.sample a.sampleSize l) with
    | error f => exact Holders.isSound_of_risks _
    | ok h => exact Holders.isSound_summarize _ _ h hs

theorem isSound_findingsOf (contract : Contract) : (a.findingsOf contract).IsSound := by
  rw [findingsOf]
  cases hdetect : Findings.detect a.detectors contract with
  | error f => rfl
  | ok f => exact Findings.isSound_detect _ contract f hdetect

/-- `signalsOf` a contract are sound, defaults or not. -/
theorem isSound_signalsOf (contract : Contract) : (a.signalsOf contract).IsSound :=
  ⟨Standard.isSound_ofBytecode _ _, a.isSound_holdersOf _ _, a.isSound_findingsOf contract⟩

/-- The signals of a `failure` are sound. -/
theorem isSound_failure (address : String) (chainId : Int) (f : Failure) (warnings : List String)
    (advice : String) : (a.failure address chainId f warnings advice).analysis.signals.IsSound :=
  ⟨Standard.isSound_default, Holders.isSound_of_risks _, rfl⟩

/-! ## The address of an analysis -/

private theorem tokenAddress_analyzeValid (address : String) (chainId : Int) (notes : List String)
    (haddress : Text.lower address = address) :
    (a.orUnexpected address chainId
      (a.analyzeValid address chainId notes).value).analysis.tokenAddress = address := by
  by_cases hcode : a.HasCode address chainId
  · obtain ⟨warnings, hvalue⟩ := a.value_analyzeValid_of_hasCode address chainId notes hcode
    rw [hvalue, orUnexpected, analysis_outcomeOf]
    rfl
  · rcases a.value_analyzeValid_of_not_hasCode address chainId notes hcode with
      ⟨f, hvalue⟩ | ⟨f, warnings, advice, hvalue⟩
    · rw [hvalue]
      exact haddress
    · rw [hvalue]
      exact haddress

/-- `analyze` keeps the address that was asked about, in lower case. -/
theorem tokenAddress_analyze (address : Option String) (chainId : Int) (o : Outcome)
    (h : (a.analyze address chainId).value = .ok o) :
    o.analysis.tokenAddress = Text.lower (address.getD "") := by
  cases hcheck : Address.check a.scheme address with
  | error f => simp [analyze, hcheck] at h
  | ok check =>
    rw [a.value_analyze_of_check address chainId check hcheck] at h
    obtain rfl := Except.ok.inj h
    split
    · -- The analysis is of the address in lower case, and its lower case is the same.
      have hlower := Text.lower_lower (address.getD "")
      split
      · exact a.tokenAddress_analyzeValid _ chainId _ hlower
      · exact hlower
    · rfl

end Analyzer

/-! ## Analyses -/

/-- A placeholder that denies everything, whatever other chains say. -/
structure Analysis.IsDenial (x : Analysis) : Prop where
  score : x.score = 0
  level : x.level = .critical
  unverified : x.signals.findings.unverifiedCode = true
  decision : ∀ survey, Decision.decide x survey =
    Decision.ofError (x.error.getD "") Decision.cannotVerify
  allFalse : ∀ survey, (Decision.decide x survey).isSafe = false ∧
    (Decision.decide x survey).canAutomate = false ∧
    (Decision.decide x survey).requiresApproval = false

/-- The fields of an outcome of `analyze` agree with each other, and its error tells whether it
failed. -/
structure Outcome.IsWellFormed (address : Option String) (o : Outcome) : Prop where
  score : 0 ≤ o.analysis.score ∧ o.analysis.score ≤ 100
  level : o.analysis.level = Level.ofScore o.analysis.score
  riskCount : o.analysis.signals.findings.riskCount = o.analysis.signals.findings.risks.length
  confidence : 0 ≤ o.analysis.signals.standard.confidence ∧
    o.analysis.signals.standard.confidence ≤ 100
  detectedType : o.analysis.signals.standard.detectedType =
    ((o.analysis.signals.standard.flags.find? (·.2)).map (·.1)).getD "Unknown"
  topShare : o.analysis.signals.holders.topShare.IsPercentage
  top5Share : o.analysis.signals.holders.top5Share.IsPercentage
  top10Share : o.analysis.signals.holders.top10Share.IsPercentage
  tokenAddress : o.analysis.tokenAddress = Text.lower (address.getD "")
  error : (∃ e, o.analysis.error = some e ∧ e ≠ "") ↔ o.isFailed = true
  failed : o.isFailed = true → o.analysis.IsDenial

namespace Analyzer

variable (a : Analyzer)

/-- A `failure` with a message denies everything. -/
theorem isDenial_failure (address : String) (chainId : Int) (f : Failure) (warnings : List String)
    (advice : String) (h : f.message ≠ "") :
    (a.failure address chainId f warnings advice).analysis.IsDenial := by
  have herror : (a.failure address chainId f warnings advice).analysis.hasError = true := by
    simpa [failure, Outcome.analysis, Analysis.placeholder, Analysis.hasError] using h
  have hdecision (survey : Option Survey) :
      Decision.decide (a.failure address chainId f warnings advice).analysis survey =
        Decision.ofError f.message Decision.cannotVerify := by
    rw [Decision.decide, herror]
    rfl
  exact ⟨rfl, rfl, rfl, hdecision, fun survey => by rw [hdecision]; exact ⟨rfl, rfl, rfl⟩⟩

/-- Every outcome of `analyze` is well formed, however it came about. -/
theorem analyze_isWellFormed (address : Option String) (chainId : Int) (o : Outcome)
    (h : (a.analyze address chainId).value = .ok o) : o.IsWellFormed address := by
  have haddress := a.tokenAddress_analyze address chainId o h
  rcases a.analyze_cases address chainId o h with
    ⟨text, f, warnings, advice, rfl⟩ | ⟨check, _, _, _, _, warnings, rfl⟩
  · -- A placeholder: its parts are the defaults.
    have hmessage := a.message_ne_empty address chainId _ f h
    have hsignals := a.isSound_failure text chainId f warnings advice
    constructor
    case score => exact ⟨Int.le_refl 0, show (0 : Int) ≤ 100 by decide⟩
    case level => rfl
    case riskCount => exact hsignals.findings
    case confidence => exact hsignals.standard.confidence
    case detectedType => exact hsignals.standard.detectedType
    case topShare => exact hsignals.holders.topShare
    case top5Share => exact hsignals.holders.top5Share
    case top10Share => exact hsignals.holders.top10Share
    case tokenAddress => exact haddress
    case error => exact ⟨fun _ => rfl, fun _ => ⟨f.message, rfl, hmessage⟩⟩
    case failed => exact fun _ => a.isDenial_failure text chainId f warnings advice hmessage
  · -- An analysis of an address with code: its parts are sound, whichever of them failed.
    have hsignals := a.isSound_signalsOf
      (a.contractOf (Text.lower (address.getD "")) chainId)
    rw [analysis_outcomeOf] at haddress
    constructor <;> rw [analysis_outcomeOf]
    case score => exact Signals.score_bounds _ {}
    case level => rfl
    case riskCount => exact hsignals.findings
    case confidence => exact hsignals.standard.confidence
    case detectedType => exact hsignals.standard.detectedType
    case topShare => exact hsignals.holders.topShare
    case top5Share => exact hsignals.holders.top5Share
    case top10Share => exact hsignals.holders.top10Share
    case tokenAddress => exact haddress
    case error =>
      rw [isFailed_outcomeOf]
      constructor
      · rintro ⟨e, herror, _⟩
        cases herror
      · intro hfailed
        cases hfailed
    case failed =>
      rw [isFailed_outcomeOf]
      exact fun hfailed => by cases hfailed

/-- The outcome of `analyze` on the plain token is well formed, and so is the placeholder without an
address. -/
theorem analyze_isWellFormed_plain :
    (∃ o, ((Scene.plain (.ok []) 0).analyzer.analyze (some Sources.plainAddress) 1).value = .ok o ∧
      o.isFailed = false ∧ o.IsWellFormed (some Sources.plainAddress)) ∧
    ∃ o, ((Scene.plain (.ok []) 0).analyzer.analyze none 1).value = .ok o ∧
      o.isFailed = true ∧ o.IsWellFormed none := by
  obtain ⟨warnings, hplain⟩ := Scene.analyze_plain (.ok []) 0
  have hnone := (Scene.plain (.ok []) 0).analyzer.value_analyze_of_check none 1
    { address := "", isValid := false, errors := ["Address is empty or undefined"] } rfl
  exact ⟨⟨_, hplain, isFailed_outcomeOf _ _ _ _ _, analyze_isWellFormed _ _ 1 _ hplain⟩,
    ⟨_, hnone, rfl, analyze_isWellFormed _ none 1 _ hnone⟩⟩

end Analyzer

end TokenRisk
