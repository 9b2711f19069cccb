import TokenRisk.Proofs.Decision
import TokenRisk.Proofs.Loss
import TokenRisk.Proofs.Session
import TokenRisk.Proofs.Verifier

/-!
# Losing answers

A part of an analysis whose answers are lost is replaced by a default. Defaults are not always less
favourable than what they replace: unknown holders do not count as concentrated, an unknown creator
costs as much as a single owner, and a chain without an analysis counts for nothing in a survey. So
a verdict can turn positive when answers are lost. Here is shown that it does so in no other way:
the lost answers were about such a risk (`Scene.HidesRisk`), or the verdict was positive before.

## Key results

- `Analyzer.isSound_of_asking`: an analysis that is sound after a loss was sound, or hides a risk
- `Scene.visit_asking`, `Scene.visit_of_asking`: what a survey finds on a chain before and after
- `Survey.isClean_ofRecords_iff`: when a survey does not speak against a token
- `Scene.safe_before_loss_iff`: the verdict of a fresh verifier
-/

namespace TokenRisk

namespace Analyzer

variable (a : Analyzer) (sources : Sources)

/-- The answer about holders was lost, and `holdersOf` was concentrated. -/
structure HidesHolders (address : String) (chainId : Int) : Prop where
  lost : IsLost (a.holdersAnswer address chainId) ((a.asking sources).holdersAnswer address chainId)
  concentrated : (a.holdersOf address chainId).isConcentrated = true

/-- The answer about the creation was lost, and `ownershipOf` cost more than a single owner does. -/
structure HidesControl (contract : Contract) : Prop where
  lost : IsLost (a.creationAnswer contract.address contract.chainId)
    ((a.asking sources).creationAnswer contract.address contract.chainId)
  costly : (a.ownershipOf contract).isProxy = true ∨ 2 ≤ (a.ownershipOf contract).risks.length

/-- What was lost about the holders or the ownership of a token had spoken against it. -/
inductive HidesRisk (address : String) (chainId : Int) : Prop where
  | holders (hides : a.HidesHolders sources address chainId)
  | control (hides : a.HidesControl sources (a.contractOf address chainId))
    (below : (a.signalsOf (a.contractOf address chainId)).score {} < 80)

/-- Something other than a label was lost about a token on a chain. -/
inductive LosesOn (address : String) (chainId : Int) : Prop where
  | code (lost : IsLost (a.codeAnswer address chainId)
      ((a.asking sources).codeAnswer address chainId))
  | source (lost : IsLost (a.sourceAnswer address chainId)
      ((a.asking sources).sourceAnswer address chainId))
  | holders (lost : IsLost (a.holdersAnswer address chainId)
      ((a.asking sources).holdersAnswer address chainId))
  | creation (lost : IsLost (a.creationAnswer address chainId)
      ((a.asking sources).creationAnswer address chainId))

variable {a sources} (h : a.Loses sources)

include h

/-! ## Costs -/

/-- `holdersOf` costs no less after a loss, unless it was concentrated. -/
private theorem cost_holdersOf_le (address : String) (chainId : Int)
    (hhides : ¬ a.HidesHolders sources address chainId) :
    (a.holdersOf address chainId).cost ≤ ((a.asking sources).holdersOf address chainId).cost := by
  cases h.holders address chainId with
  | inl hkept =>
    exact Int.le_of_eq (congrArg _ (a.holdersOf_asking sources _ _ hkept).symm)
  | inr hlost =>
    -- Spread holders cost no more than those that are not known.
    have hspread : (a.holdersOf address chainId).isConcentrated = false := by
      rw [Bool.eq_false_iff]
      exact fun hconcentrated => hhides ⟨hlost, hconcentrated⟩
    have hfew := a.length_risks_holdersOf _ _ hspread
    obtain ⟨name, why, hfailed⟩ := hlost.failed
    rw [(a.asking sources).holdersOf_of_provider _ _ name why hfailed,
      Holders.cost_of_spread _ hspread (by omega)]
    decide

/-- `holdersOf` that is not concentrated after a loss was not, unless it was lost. -/
private theorem spread_of_asking (address : String) (chainId : Int)
    (hspread : ((a.asking sources).holdersOf address chainId).isConcentrated = false)
    (hhides : ¬ a.HidesHolders sources address chainId) :
    (a.holdersOf address chainId).isConcentrated = false := by
  cases h.holders address chainId with
  | inl hkept => rwa [← a.holdersOf_asking sources _ _ hkept]
  | inr hlost =>
    rw [Bool.eq_false_iff]
    exact fun hconcentrated => hhides ⟨hlost, hconcentrated⟩

/-- `ownershipOf` costs no less after a loss, unless it cost more than a single owner. -/
private theorem cost_ownershipOf_le_of_lost (contract : Contract)
    (hhides : ¬ a.HidesControl sources contract) :
    (a.ownershipOf contract).cost ≤ ((a.asking sources).ownershipOf contract).cost := by
  cases h.creation contract.address contract.chainId with
  | inl hkept => exact cost_ownershipOf_le h contract hkept
  | inr hlost =>
    -- Control that is not hidden costs no more than the remark on a lost record.
    have hcheap : (a.ownershipOf contract).cost ≤ 5 := by
      have hno : ¬ ((a.ownershipOf contract).isProxy = true ∨
          2 ≤ (a.ownershipOf contract).risks.length) := fun hcostly => hhides ⟨hlost, hcostly⟩
      rw [not_or, Bool.not_eq_true] at hno
      simp only [Ownership.cost, Signals.ownershipCost, pointsIf, hno.1, Bool.false_eq_true,
        ↓reduceIte]
      split <;> omega
    obtain ⟨name, why, hfailed⟩ := hlost.failed
    rw [(a.asking sources).ownershipOf_eq, hfailed]
    exact hcheap

/-- Where no holders and no ownership hide a risk, the `score` is no higher after a loss. -/
private theorem score_asking_le (address : String) (chainId : Int)
    (hholders : ¬ a.HidesHolders sources address chainId)
    (hcontrol : ¬ a.HidesControl sources (a.contractOf address chainId)) :
    ((a.asking sources).signalsOf (a.contractOf address chainId)).score {} ≤
      (a.signalsOf (a.contractOf address chainId)).score {} :=
  Signals.score_le_of_costs _ _ rfl (cost_ownershipOf_le_of_lost h _ hcontrol)
    (cost_holdersOf_le h _ _ hholders) rfl

/-! ## Analyses -/

/-- If a contract `HasCode` after a loss, it did before, and its code was answered the same. -/
private theorem hasCode_of_asking (address : String) (chainId : Int)
    (hcode : (a.asking sources).HasCode address chainId) :
    a.HasCode address chainId ∧
      (a.asking sources).codeAnswer address chainId = a.codeAnswer address chainId := by
  obtain ⟨code, hanswer, hdigits⟩ := hcode.code
  have hbefore := (h.code address chainId).eq_of_ok hanswer
  exact ⟨⟨⟨code, hbefore, hdigits⟩, (h.source address chainId).isRecorded_of hcode.source⟩,
    hanswer.trans hbefore.symm⟩

/-- If `findingsOf` has verified source after a loss, then `sourceAnswer` was the same before. -/
private theorem sourceAnswer_asking (address : String) (chainId : Int)
    (hverified : ((a.asking sources).findingsOf
      ((a.asking sources).contractOf address chainId)).unverifiedCode = false) :
    (a.asking sources).sourceAnswer address chainId = a.sourceAnswer address chainId := by
  have hsource := (a.asking sources).hasSource_of_verified _ hverified
  cases htext : ((a.asking sources).contractOf address chainId).sourceCode with
  | none => simp [Contract.hasSource, Contract.sourceText, htext] at hsource
  | some text =>
    obtain ⟨record, hanswer, _⟩ := sourceCode_snapshot _ _ _ _ text htext
    exact hanswer.trans ((h.source address chainId).eq_of_ok hanswer).symm

/-- An analysis `IsSound` after a loss only if it was before, or what was lost hides a risk. -/
theorem isSound_of_asking (address : Option String) (chainId : Int) (o' : Outcome)
    (ho' : ((a.asking sources).analyze address chainId).value = .ok o')
    (hsound : Decision.IsSound o'.analysis)
    (hhides : ¬ a.HidesRisk sources (Text.lower (address.getD "")) chainId) :
    o'.isSettled = true ∧ address.getD "" ≠ "" ∧
      ∃ o, (a.analyze address chainId).value = .ok o ∧ Decision.IsSound o.analysis := by
  rcases (a.asking sources).analyze_cases address chainId o' ho' with
    ⟨text, f, warnings, advice, rfl⟩ | ⟨check, hcheck, hvalid, hsupported, hcode', warnings, rfl⟩
  · exact absurd hsound.level (by simp [level_failure])
  · rw [analysis_outcomeOf] at hsound
    -- The address is there, and code and verified source were answered before as they are now.
    refine ⟨isSettled_outcomeOf _ _ _ _ _, ?_, ?_⟩
    · intro hempty
      simp only [Address.check, hempty, Except.ok.injEq] at hcheck
      rw [← hcheck] at hvalid
      cases hvalid
    · obtain ⟨hcode, hkept⟩ := hasCode_of_asking h _ _ hcode'
      have hcontract := a.contractOf_asking sources _ _ hkept
        (sourceAnswer_asking h _ _ hsound.verified)
      obtain ⟨warnings', hvalue⟩ := a.analyze_of_hasCode address chainId check hcheck hvalid
        hsupported hcode
      rw [hcontract] at hsound
      refine ⟨_, hvalue, ?_⟩
      rw [analysis_outcomeOf]
      have hholders := fun hholders => hhides (.holders hholders)
      have hspread := spread_of_asking h _ _ hsound.spread hholders
      refine ⟨rfl, (Level.ofScore_eq_low_iff _).mpr ?_, hsound.verified, hspread⟩
      -- A score that was too low before would not have risen.
      refine Int.not_lt.mp fun hbelow => ?_
      have hlow := (Level.ofScore_eq_low_iff _).mp hsound.level
      have hscore := score_asking_le h _ _ hholders
        fun hcontrol => hhides (.control hcontrol hbelow)
      exact absurd (Int.le_trans hlow hscore) (Int.not_le.mpr hbelow)

omit h in
/-- A sound analysis leaves nothing to hide: `HidesRisk` does not hold of it. -/
theorem not_hidesRisk_of_isSound (address : Option String) (chainId : Int) (o : Outcome)
    (ho : (a.analyze address chainId).value = .ok o) (hsound : Decision.IsSound o.analysis) :
    ¬ a.HidesRisk sources (Text.lower (address.getD "")) chainId := by
  rcases a.analyze_cases address chainId o ho with
    ⟨text, f, warnings, advice, rfl⟩ | ⟨check, _, _, _, _, warnings, rfl⟩
  · -- A placeholder is at the critical level.
    exact absurd hsound.level (by simp [level_failure])
  · rw [analysis_outcomeOf] at hsound
    intro hhides
    cases hhides with
    | holders hides =>
      have hspread : (a.holdersOf (Text.lower (address.getD "")) chainId).isConcentrated = false :=
        hsound.spread
      rw [hides.concentrated] at hspread
      cases hspread
    | control _ below =>
      -- Control counts as hidden only where the score is below that of a low level.
      have hlow := (Level.ofScore_eq_low_iff _).mp hsound.level
      exact absurd hlow (Int.not_le.mpr below)

/-- If nothing but labels was lost, `analyze` still shows the contract under its name, and at a high
level if it was at one. -/
theorem analyze_asking (address : Option String) (chainId : Int) (o : Outcome)
    (ho : (a.analyze address chainId).value = .ok o) (hfound : o.isFailed = false)
    (hkept : ¬ a.LosesOn sources (Text.lower (address.getD "")) chainId) :
    ∃ o', ((a.asking sources).analyze address chainId).value = .ok o' ∧ o'.isFailed = false ∧
      o'.analysis.contractName = o.analysis.contractName ∧
      (o.analysis.level.isHigh = true → o'.analysis.level.isHigh = true) := by
  rcases a.analyze_cases address chainId o ho with
    ⟨text, f, warnings, advice, rfl⟩ | ⟨check, hcheck, hvalid, hsupported, hcode, warnings, rfl⟩
  · exact absurd hfound (by simp)
  · -- Code and source are the same, and so is the contract.
    have hcodeKept := (h.code (Text.lower (address.getD "")) chainId).resolve_right
      fun hlost => hkept (.code hlost)
    have hsourceKept := (h.source (Text.lower (address.getD "")) chainId).resolve_right
      fun hlost => hkept (.source hlost)
    have hcontract := a.contractOf_asking sources _ _ hcodeKept hsourceKept
    have hcode' : (a.asking sources).HasCode (Text.lower (address.getD "")) chainId :=
      ⟨by rw [hcodeKept]; exact hcode.code, by rw [hsourceKept]; exact hcode.source⟩
    -- With code and source at hand, the analysis comes to its end on the other side as well.
    obtain ⟨warnings', hvalue⟩ := (a.asking sources).analyze_of_hasCode address chainId check hcheck
      hvalid hsupported hcode'
    refine ⟨_, hvalue, isFailed_outcomeOf _ _ _ _ _, ?_, ?_⟩
    · rw [analysis_outcomeOf, analysis_outcomeOf, hcontract]
      rfl
    · rw [analysis_outcomeOf, analysis_outcomeOf, hcontract]
      intro hhigh
      -- Only losses in holders and control are left, and they cost no more than what they hide.
      have hscore := score_asking_le h _ _ (fun hholders => hkept (.holders hholders.lost))
        fun hcontrol => hkept (.creation hcontrol.lost)
      have hbelow := (Level.isHigh_ofScore_iff _).mp hhigh
      exact (Level.isHigh_ofScore_iff _).mpr (Int.lt_of_le_of_lt hscore hbelow)

/-- If `analyze` finds verified source after a loss, it did so before. -/
theorem verified_of_asking (address : Option String) (chainId : Int) (o' : Outcome)
    (ho' : ((a.asking sources).analyze address chainId).value = .ok o')
    (hfound : o'.isFailed = false)
    (hverified : o'.analysis.signals.findings.unverifiedCode = false) :
    ∃ o, (a.analyze address chainId).value = .ok o ∧ o.isFailed = false ∧
      o.analysis.signals.findings.unverifiedCode = false := by
  rcases (a.asking sources).analyze_cases address chainId o' ho' with
    ⟨text, f, warnings, advice, rfl⟩ | ⟨check, hcheck, hvalid, hsupported, hcode', warnings, rfl⟩
  · exact absurd hfound (by simp)
  · rw [analysis_outcomeOf] at hverified
    -- What is there after the loss was there before, so the contract is the same.
    obtain ⟨hcode, hkept⟩ := hasCode_of_asking h _ _ hcode'
    have hcontract := a.contractOf_asking sources _ _ hkept (sourceAnswer_asking h _ _ hverified)
    obtain ⟨warnings', hvalue⟩ := a.analyze_of_hasCode address chainId check hcheck hvalid
      hsupported hcode
    refine ⟨_, hvalue, isFailed_outcomeOf _ _ _ _ _, ?_⟩
    rw [hcontract] at hverified
    rw [analysis_outcomeOf]
    exact hverified

end Analyzer

/-- An analysis that spoils a survey: its level `isHigh`, or its contract has a name that is not
`IsReadable`. -/
def Analysis.CountsAgainst (x : Analysis) : Prop :=
  x.level.isHigh = true ∨ ¬ Wrapped.IsReadable x.contractName

/-- When `ofRecords` comes to a clean survey: no level is high, and some source is verified. A token
with an analysis is found, so this need not be asked for. -/
private theorem Survey.isClean_iff_of_ofRecords (now address : String) (baseChainId : Int)
    (records : List ChainRecord) (s : Survey)
    (hs : Survey.ofRecords now address baseChainId records = .ok s)
    (hfound : ∀ record ∈ records, record.isFound = record.analysis.isSome) :
    Decision.IsClean s ↔
      (∀ record ∈ records, ∀ x, record.analysis = some x → x.level.isHigh = false) ∧
      ∃ record ∈ records, ∃ x, record.analysis = some x ∧
        x.signals.findings.unverifiedCode = false := by
  obtain ⟨_, hsfound, hsverified, hshigh⟩ := Survey.ofRecords_eq_ok _ _ _ _ _ hs
  have hhigh := ChainRecord.highRiskCount_pos_iff records
  have hverified := ChainRecord.verifiedCount_pos_iff records
  -- Clean is said of counts, the other side of single records.
  constructor
  · intro hclean
    constructor
    · intro record hrecord x hx
      refine Bool.eq_false_iff.mpr fun hxhigh => hclean.highRisk ?_
      have hpos := hhigh.mpr ⟨record, hrecord, x, hx, hxhigh⟩
      omega
    · have hsome := hclean.verified
      exact hverified.mp (by omega)
  · rintro ⟨hlow, record, hrecord, x, hx, hxverified⟩
    have hpos := hverified.mpr ⟨record, hrecord, x, hx, hxverified⟩
    -- A record with verified source is one of a chain on which the token is found.
    have hfoundPos := (ChainRecord.foundCount_pos_iff records).mpr
      ⟨record, hrecord, by rw [hfound record hrecord, hx]; rfl⟩
    have hnone : ¬ 0 < ChainRecord.highRiskCount records := by
      rw [hhigh]
      rintro ⟨other, hother, y, hy, hyhigh⟩
      rw [hlow other hother y hy] at hyhigh
      cases hyhigh
    exact ⟨by omega, by omega, by omega⟩

/-- `ofRecords` comes to a clean survey exactly when no record counts against the token and one has
verified source. -/
theorem Survey.isClean_ofRecords_iff (now address : String) (baseChainId : Int)
    (records : List ChainRecord)
    (hfound : ∀ record ∈ records, record.isFound = record.analysis.isSome) :
    (∃ s, Survey.ofRecords now address baseChainId records = .ok s ∧ Decision.IsClean s) ↔
      (∀ record ∈ records, ∀ x, record.analysis = some x → ¬ x.CountsAgainst) ∧
      ∃ record ∈ records, ∃ x, record.analysis = some x ∧
        x.signals.findings.unverifiedCode = false := by
  have hreadable := Survey.ofRecords_isOk_iff now address baseChainId records
  constructor
  · -- Names that are readable make a survey, and its counts decide whether it is clean.
    rintro ⟨s, hs, hclean⟩
    obtain ⟨hlow, hsome⟩ :=
      (Survey.isClean_iff_of_ofRecords _ _ _ _ s hs hfound).mp hclean
    refine ⟨fun record hrecord x hx hagainst => ?_, hsome⟩
    -- A record counts against the survey by a high level, or by a name that nobody can read.
    cases hagainst with
    | inl hhigh => exact Bool.false_ne_true ((hlow record hrecord x hx).symm.trans hhigh)
    | inr hno => exact hno (hreadable.mp ⟨s, hs⟩ record hrecord x hx)
  · rintro ⟨hclear, hsome⟩
    obtain ⟨s, hs⟩ := hreadable.mpr fun record hrecord x hx =>
      Classical.not_not.mp fun hno => hclear record hrecord x hx (.inr hno)
    refine ⟨s, hs, (Survey.isClean_iff_of_ofRecords _ _ _ _ s hs hfound).mpr ⟨?_, hsome⟩⟩
    exact fun record hrecord x hx => Bool.eq_false_iff.mpr fun hhigh =>
      hclear record hrecord x hx (.inl hhigh)

namespace Scene

/-- The scene in which the analyzer is `asking` other sources. -/
def asking (c : Scene) (sources : Sources) : Scene :=
  { c with analyzer := c.analyzer.asking sources }

variable (c : Scene) (sources : Sources)

theorem analyzer_asking : (c.asking sources).analyzer = c.analyzer.asking sources := rfl

theorem chainOf_asking (r : Request) : (c.asking sources).chainOf r = c.chainOf r := rfl

/-- `HasSlots` does not depend on the sources. -/
theorem hasSlots_asking (targets : List Int) :
    (c.asking sources).surveyor.HasSlots targets ↔ c.surveyor.HasSlots targets := by
  simp only [Surveyor.HasSlots, surveyor]
  exact Iff.rfl

/-- What was lost had spoken against the token on the requested chain, or on a chain of the survey
that now shows nothing against it, or had kept the only chains with verified source from being
analyzed in time. -/
inductive HidesRisk (r : Request) : Prop where
  | base (hides : c.analyzer.HidesRisk sources (Text.lower r.addressText) (c.chainOf r))
  | visited (cross : r.crossChain = true) (chainId : Int)
    (target : chainId ∈ Surveyor.targets r.chainIds) (x : Analysis)
    (found : (c.surveyor.visitOn r.addressText chainId).1.analysis = some x)
    (against : x.CountsAgainst)
    (hidden : ∀ x',
      ((c.asking sources).surveyor.visitOn r.addressText chainId).1.analysis = some x' →
        ¬ x'.CountsAgainst)
    (lost : c.analyzer.LosesOn sources (Text.lower r.addressText) chainId ∨
      (c.asking sources).surveyor.reached r.addressText chainId = none)
  | late (cross : r.crossChain = true) (chainId : Int)
    (target : chainId ∈ Surveyor.targets r.chainIds)
    (late : c.surveyor.reached r.addressText chainId = none)
    (inTime : (c.asking sources).surveyor.reached r.addressText chainId ≠ none)
    (unverified : ∀ id ∈ Surveyor.targets r.chainIds, ∀ x,
      (c.surveyor.visitOn r.addressText id).1.analysis = some x →
        x.signals.findings.unverifiedCode = true)

section

variable {c sources} (h : c.analyzer.Loses sources)

include h

/-! ## Surveys -/

/-- What `visitOn` finds on a chain it still finds if nothing is lost there but labels. -/
theorem visit_asking (address : String) (chainId : Int) (x : Analysis)
    (hx : (c.surveyor.visitOn address chainId).1.analysis = some x)
    (hkept : ¬ c.analyzer.LosesOn sources (Text.lower address) chainId)
    (hin : (c.asking sources).surveyor.reached address chainId ≠ none) :
    ∃ x', ((c.asking sources).surveyor.visitOn address chainId).1.analysis = some x' ∧
      x'.contractName = x.contractName ∧ (x.level.isHigh = true → x'.level.isHigh = true) := by
  obtain ⟨o, ho, hfound, rfl⟩ := (Surveyor.analysis_visitOn_iff ..).mp hx
  obtain ⟨hsupported, hreached⟩ := (Surveyor.outcome_visitOn_iff ..).mp ho
  have hvalue := c.reached_eq_some address chainId _ hreached
  obtain ⟨o', hvalue', hfound', hname, hhigh⟩ :=
    Analyzer.analyze_asking h (some address) chainId o hvalue hfound hkept
  -- The chain is reached after the loss too, and comes to what the analysis comes to there.
  obtain ⟨y, hy⟩ := Option.ne_none_iff_exists'.mp hin
  have hyo : y = .ok o' := ((c.asking sources).reached_eq_some _ _ y hy).symm.trans hvalue'
  rw [hyo] at hy
  have hvisit := ((c.asking sources).surveyor.outcome_visitOn_iff ..).mpr ⟨hsupported, hy⟩
  exact ⟨o'.analysis, ((c.asking sources).surveyor.analysis_visitOn_iff ..).mpr
    ⟨o', hvisit, hfound', rfl⟩, hname, hhigh⟩

/-- The verified source that `visitOn` finds on a chain after a loss it found before, unless the
chain was late. -/
theorem visit_of_asking (address : String) (chainId : Int) (x' : Analysis)
    (hx' : ((c.asking sources).surveyor.visitOn address chainId).1.analysis = some x')
    (hverified : x'.signals.findings.unverifiedCode = false)
    (hin : c.surveyor.reached address chainId ≠ none) :
    ∃ x, (c.surveyor.visitOn address chainId).1.analysis = some x ∧
      x.signals.findings.unverifiedCode = false := by
  obtain ⟨o', ho', hfound', rfl⟩ := (Surveyor.analysis_visitOn_iff ..).mp hx'
  obtain ⟨hsupported, hreached'⟩ := (Surveyor.outcome_visitOn_iff ..).mp ho'
  have hvalue' := (c.asking sources).reached_eq_some address chainId _ hreached'
  obtain ⟨o, hvalue, hfound, hverified⟩ :=
    Analyzer.verified_of_asking h (some address) chainId o' hvalue' hfound' hverified
  -- It was reached before the loss as well.
  obtain ⟨y, hy⟩ := Option.ne_none_iff_exists'.mp hin
  have hyo : y = .ok o := (c.reached_eq_some _ _ y hy).symm.trans hvalue
  rw [hyo] at hy
  have hvisit := (c.surveyor.outcome_visitOn_iff ..).mpr ⟨hsupported, hy⟩
  exact ⟨o.analysis, (c.surveyor.analysis_visitOn_iff ..).mpr ⟨o, hvisit, hfound, rfl⟩, hverified⟩

omit h in
/-- `surveyOf` is clean exactly when no chain counts against the token and some chain has verified
source. -/
theorem isClean_survey_iff (c : Scene) (r : Request) :
    (∃ s, c.surveyOf r = .ok s ∧ Decision.IsClean s) ↔
      (∀ id ∈ Surveyor.targets r.chainIds, ∀ x,
        (c.surveyor.visitOn r.addressText id).1.analysis = some x → ¬ x.CountsAgainst) ∧
      ∃ id ∈ Surveyor.targets r.chainIds, ∃ x,
        (c.surveyor.visitOn r.addressText id).1.analysis = some x ∧
          x.signals.findings.unverifiedCode = false := by
  -- A record is of a visit, and says that the token is found exactly where it has an analysis.
  have hfound : ∀ record ∈ c.recordsOf r.addressText r.chainIds,
      record.isFound = record.analysis.isSome := by
    simp only [recordsOf, List.forall_mem_map]
    exact fun id _ => c.surveyor.isFound_visitOn r.addressText id
  rw [surveyOf, Survey.isClean_ofRecords_iff _ _ _ _ hfound]
  simp only [recordsOf, List.forall_mem_map]
  refine and_congr Iff.rfl ⟨?_, ?_⟩
  · rintro ⟨_, hrecord, hverified⟩
    obtain ⟨id, hid, rfl⟩ := List.mem_map.mp hrecord
    exact ⟨id, hid, hverified⟩
  · rintro ⟨id, hid, hverified⟩
    exact ⟨_, List.mem_map.mpr ⟨id, hid, rfl⟩, hverified⟩

/-- `surveyOf` is clean after a loss only if it was before, or what was lost hides a risk. -/
theorem isClean_of_asking (r : Request) (s' : Survey) (hcross : r.crossChain = true)
    (hs' : (c.asking sources).surveyOf r = .ok s') (hclean : Decision.IsClean s')
    (hhides : ¬ c.HidesRisk sources r) :
    ∃ s, c.surveyOf r = .ok s ∧ Decision.IsClean s := by
  obtain ⟨hclear', id, hid, x', hx', hverified'⟩ :=
    (isClean_survey_iff (c.asking sources) r).mp ⟨s', hs', hclean⟩
  refine (isClean_survey_iff c r).mpr ⟨fun id hid x hx hagainst => ?_, ?_⟩
  · -- What counts against the token either still does or was lost.
    refine hhides (.visited hcross id hid x hx hagainst (hclear' id hid) ?_)
    refine Classical.or_iff_not_imp_left.mpr fun hkept => Classical.byContradiction fun hin => ?_
    obtain ⟨x', hx', hname, hhigh⟩ := visit_asking h r.addressText id x hx hkept hin
    refine hclear' id hid x' hx' (hagainst.imp hhigh fun hno => ?_)
    rwa [hname]
  · -- The source that is verified was so before, unless its chain was late.
    refine Classical.byContradiction fun hnone => ?_
    have hin : (c.asking sources).surveyor.reached r.addressText id ≠ none := by
      obtain ⟨o', ho', _⟩ := (Surveyor.analysis_visitOn_iff ..).mp hx'
      rw [((Surveyor.outcome_visitOn_iff ..).mp ho').2]
      simp
    have hunverified (id : Int) (hid : id ∈ Surveyor.targets r.chainIds) (x : Analysis)
        (hx : (c.surveyor.visitOn r.addressText id).1.analysis = some x) :
        x.signals.findings.unverifiedCode = true := by
      rw [← Bool.not_eq_false]
      exact fun hverified => hnone ⟨id, hid, x, hx, hverified⟩
    exact hnone ⟨id, hid, visit_of_asking h r.addressText id x' hx' hverified' fun hlate =>
      hhides (.late hcross id hid hlate hin hunverified)⟩

/-- Where `Surveyed` has no survey after a loss, or a clean one, it had none before, or a clean
one. -/
private theorem surveyed_of_asking (r : Request) (survey' : Option Survey)
    (hsurveyed : (c.asking sources).Surveyed r survey')
    (hclean : ∀ s, survey' = some s → Decision.IsClean s) (hhides : ¬ c.HidesRisk sources r) :
    ∃ survey, c.Surveyed r survey ∧ ∀ s, survey = some s → Decision.IsClean s := by
  cases survey' with
  | none => exact ⟨none, hsurveyed, by simp⟩
  | some s' =>
    obtain ⟨hcross, hslots, hs'⟩ := hsurveyed
    obtain ⟨s, hs, hclean⟩ := isClean_of_asking h r s' hcross hs' (hclean s' rfl) hhides
    exact ⟨some s, ⟨hcross, (c.hasSlots_asking sources _).mp hslots, hs⟩, by simpa using hclean⟩

/-! ## Verdicts -/

/-- If `work` comes to a safe verdict after a loss, it did so before, or what was lost hides a
risk. -/
private theorem isSafe_work_of_asking (id : String) (r : Request) (a' : Verification) (o' : Outcome)
    (hwork : ((c.asking sources).verifier.work id r).value = .ok (a', o'))
    (hsafe : a'.decision.isSafe = true) (hhides : ¬ c.HidesRisk sources r) :
    o'.isSettled = true ∧
      ∀ id, ∃ a o, (c.verifier.work id r).value = .ok (a, o) ∧ a.decision.isSafe = true := by
  obtain ⟨⟨address, haddress, hvalue', _⟩, survey', rfl, hsurveyed'⟩ :=
    (c.asking sources).work_eq_ok id r a' o' hwork
  obtain ⟨hsound', hclean'⟩ := (Decision.isSafe_decide_iff _ _).mp hsafe
  rw [analyzer_asking, chainOf_asking] at hvalue'
  obtain ⟨hsettled, hne, o, hvalue, hsound⟩ := Analyzer.isSound_of_asking h address (c.chainOf r) o'
    hvalue' hsound' (by rw [haddress]; exact fun hbase => hhides (.base hbase))
  refine ⟨hsettled, fun id => ?_⟩
  obtain ⟨survey, hsurveyed, hclean⟩ := surveyed_of_asking h r survey' hsurveyed' hclean' hhides
  -- A token without an address would not have passed.
  have htext (x : Option String) (hx : x.getD "" = r.addressText) : x = some r.addressText := by
    cases x with
    | none => exact absurd (haddress.trans hx.symm) hne
    | some text => exact congrArg some hx
  rw [htext address haddress] at hvalue
  exact ⟨_, o, c.value_work id r r.addressText o survey (htext r.tokenAddress rfl) hvalue hsurveyed,
    (Decision.isSafe_decide_iff _ _).mpr ⟨hsound, hclean⟩⟩

omit h in
/-- A safe verdict leaves nothing to hide: `HidesRisk` does not hold of its request. -/
private theorem not_hidesRisk_of_isSafe (id : String) (r : Request) (a : Verification) (o : Outcome)
    (hwork : (c.verifier.work id r).value = .ok (a, o)) (hsafe : a.decision.isSafe = true) :
    ¬ c.HidesRisk sources r := by
  obtain ⟨⟨address, haddress, hvalue, _⟩, survey, rfl, hsurveyed⟩ := c.work_eq_ok id r a o hwork
  obtain ⟨hsound, hclean⟩ := (Decision.isSafe_decide_iff _ _).mp hsafe
  have hsurvey (hcross : r.crossChain = true) : ∃ s, c.surveyOf r = .ok s ∧ Decision.IsClean s := by
    cases survey with
    | none => exact absurd hcross (Bool.eq_false_iff.mp hsurveyed)
    | some s => exact ⟨s, hsurveyed.2.2, hclean s rfl⟩
  -- Each way to hide a risk would have spoken against this verdict.
  intro hhides
  cases hhides with
  | base hides =>
    rw [← haddress] at hides
    exact Analyzer.not_hidesRisk_of_isSound address (c.chainOf r) o hvalue hsound hides
  | visited cross chainId target x found against =>
    exact ((isClean_survey_iff c r).mp (hsurvey cross)).1 chainId target x found against
  | late cross chainId target late inTime unverified =>
    obtain ⟨_, id, hid, x, hx, hverified⟩ := (isClean_survey_iff c r).mp (hsurvey cross)
    rw [unverified id hid x hx] at hverified
    cases hverified

omit h in
/-- A fresh verifier answers that a token is safe exactly if `work` does, and if its cache has room
for the answer. -/
private theorem fresh_verify_iff (r : Request) (s : Session) (hfresh : s.IsFresh) :
    ∃ id, ∀ a, (c.verifier.verify r s).1.value = .ok a ∧ a.decision.isSafe = true ↔
      ∃ o, (c.verifier.work id r).value = .ok (a, o) ∧ (o.isSettled = true → s.CanStore) ∧
        a.decision.isSafe = true := by
  obtain ⟨id, s', _, hroom, hvalue, _⟩ := c.verifier.verify_of_not_found r s
    (Verifier.lookUp_of_isFresh _ r s hfresh)
  refine ⟨id, fun a => ?_⟩
  rw [hvalue]
  cases hwork : (c.verifier.work id r).value with
  | error f =>
    -- The answer to a failure is never positive.
    simp only [reduceCtorEq, false_and, exists_false, iff_false, not_and]
    intro ha
    rw [← Except.ok.inj ha]
    exact Bool.false_ne_true
  | ok x =>
    obtain ⟨b, o⟩ := x
    -- An answer is handed out if it is settled and can be stored, or if it is not settled.
    rw [Verifier.complete_eq_ok_iff, hroom]
    constructor
    · rintro ⟨⟨rfl, hstored⟩, hsafe⟩
      exact ⟨o, rfl, hstored, hsafe⟩
    · rintro ⟨o', heq, hstored, hsafe⟩
      obtain ⟨rfl, rfl⟩ := Prod.mk.inj (Except.ok.inj heq)
      exact ⟨⟨rfl, hstored⟩, hsafe⟩

end

/-- If a fresh verifier calls a token safe after some answers were lost, then it did so before,
unless what was lost had spoken against the token: `HidesRisk`. -/
theorem safe_before_loss_iff (c : Scene) (sources : Sources) (h : c.analyzer.Loses sources)
    (r : Request) (s : Session) (hfresh : s.IsFresh) (a' : Verification)
    (ha' : ((c.asking sources).verifier.verify r s).1.value = .ok a')
    (hsafe : a'.decision.isSafe = true) :
    (∃ a, (c.verifier.verify r s).1.value = .ok a ∧ a.decision.isSafe = true) ↔
      ¬ c.HidesRisk sources r := by
  -- Without a memory, an answer is positive exactly where the work comes to a positive one.
  obtain ⟨id', hverify'⟩ := fresh_verify_iff (c := c.asking sources) r s hfresh
  obtain ⟨id, hverify⟩ := fresh_verify_iff (c := c) r s hfresh
  obtain ⟨o', hwork', hstored, _⟩ := (hverify' a').mp ⟨ha', hsafe⟩
  constructor
  · rintro ⟨a, ha⟩
    obtain ⟨o, hwork, _, hpositive⟩ := (hverify a).mp ha
    exact not_hidesRisk_of_isSafe id r a o hwork hpositive
  · intro hhides
    -- What is settled after the loss could be stored, and so it can be before.
    obtain ⟨hsettled, hbefore⟩ := isSafe_work_of_asking h id' r a' o' hwork' hsafe hhides
    obtain ⟨a, o, hwork, hpositive⟩ := hbefore id
    exact ⟨a, (hverify a).mpr ⟨o, hwork, fun _ => hstored hsettled, hpositive⟩⟩

/-- Someone who holds more than half of a token. -/
private abbrev bigHolder : Holder :=
  ⟨.string Sources.plainAddress, .ofInt 60⟩

private theorem isConcentrated_bigHolder :
    ((plain (.ok [bigHolder]) 0).analyzer.holdersOf Sources.plainAddress 1).isConcentrated =
      true := by
  have hranked : Holders.ranked (Holders.sample 10 [bigHolder]) = [bigHolder] := by
    have hnumber : bigHolder.share ≠ .nan := by decide +kernel
    simp [Holders.ranked, Holders.sample, hnumber]
  have hshare : Binary64.lt (.ofInt 50) (Holders.clamp (.ofInt 60)) = true := by decide +kernel
  have hsummary : ∃ h, Holders.summarize {} (Holders.sample 10 [bigHolder]) = .ok h ∧
      h.isConcentrated = true := by
    simp only [Holders.summarize, hranked]
    refine ⟨_, rfl, ?_⟩
    -- No later comparison takes `isConcentrated` back.
    simp only [Holders.Concentration.ofShares, Holders.Concentration.checkTop10,
      Holders.Concentration.checkTop5, Holders.Concentration.checkTop,
      Holders.Concentration.found, hshare]
    split <;> split <;> rfl
  obtain ⟨h, hh, hconcentrated⟩ := hsummary
  rw [Analyzer.holdersOf, value_holders_plain, hh]
  exact hconcentrated

private theorem isConcentrated_lost :
    ((plain (.error (.provider "explorer" (.timeout none))) 0).analyzer.holdersOf
      Sources.plainAddress 1).isConcentrated = false := by
  rw [Analyzer.holdersOf_of_provider _ _ _ "explorer" (.timeout none) rfl]

private theorem loses_holders (l : List Holder) :
    (plain (.ok l) 0).analyzer.Loses (.plain (.error (.provider "explorer" (.timeout none)))) :=
  ⟨fun _ _ => .inl rfl, fun _ _ => .inl rfl, fun _ _ => .inr ⟨⟨l, rfl⟩, _, _, rfl⟩,
    fun _ _ => .inl rfl, fun _ _ => .inl rfl⟩

/-- `Request.plain` is answered as safe as long as its holders are not concentrated. -/
private theorem isSafe_plain (holders : Except Failure (List Holder))
    (hspread : ((plain holders 0).analyzer.holdersOf Sources.plainAddress 1).isConcentrated =
      false) :
    ∃ a, ((plain holders 0).verifier.verify .plain {}).1.value = .ok a ∧
      a.decision.isSafe = true := by
  obtain ⟨id, hverify⟩ := fresh_verify_iff (c := plain holders 0) .plain {}
    Session.isFresh_default
  obtain ⟨a, o, hwork, _, hsafe⟩ := work_plain holders 0 id
  exact ⟨a, (hverify a).mpr ⟨o, hwork, fun _ => Session.canStore_default, hsafe.mpr hspread⟩⟩

/-- The plain token with `bigHolder` is not safe, but it is as soon as its holders are lost. -/
theorem lost_holders_make_safe :
    let c := Scene.plain (.ok [⟨.string Sources.plainAddress, .ofInt 60⟩]) 0
    let sources := Sources.plain (.error (.provider "explorer" (.timeout none)))
    c.analyzer.Loses sources ∧
      (∃ a', ((c.asking sources).verifier.verify .plain {}).1.value = .ok a' ∧
        a'.decision.isSafe = true) ∧
      ¬ ∃ a, (c.verifier.verify .plain {}).1.value = .ok a ∧ a.decision.isSafe = true := by
  intro c sources
  -- Before the loss, a safe answer would need holders that are not concentrated.
  refine ⟨loses_holders _, isSafe_plain _ isConcentrated_lost, ?_⟩
  rintro ⟨a, ha⟩
  obtain ⟨id, hverify⟩ := fresh_verify_iff (c := c) .plain {}
    Session.isFresh_default
  obtain ⟨o, hwork, _, hpositive⟩ := (hverify a).mp ha
  obtain ⟨b, p, hwork', _, hsafe⟩ := work_plain (.ok [bigHolder]) 0 id
  obtain ⟨rfl, rfl⟩ := Prod.mk.inj (Except.ok.inj (hwork.symm.trans hwork'))
  have hspread := hsafe.mp hpositive
  rw [isConcentrated_bigHolder] at hspread
  cases hspread

/-- If nobody was known to hold the plain token, losing its holders is no `HidesRisk`. -/
theorem lost_nobody_hides_nothing :
    let c := Scene.plain (.ok []) 0
    let sources := Sources.plain (.error (.provider "explorer" (.timeout none)))
    (∃ a', ((c.asking sources).verifier.verify .plain {}).1.value = .ok a' ∧
      a'.decision.isSafe = true) ∧ ¬ c.HidesRisk sources .plain := by
  intro c sources
  obtain ⟨a', ha', hsafe⟩ := isSafe_plain _ isConcentrated_lost
  have hbefore := isSafe_plain _ (isConcentrated_plain_nil 0)
  exact ⟨⟨a', ha', hsafe⟩, (safe_before_loss_iff c sources (loses_holders []) .plain {}
    Session.isFresh_default a' ha' hsafe).mp hbefore⟩

end Scene

end TokenRisk
