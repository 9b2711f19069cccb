import TokenRisk.Proofs.Answers
import TokenRisk.Proofs.Warnings

/-!
# Analyses without source

A lookup of source may fail while the code is at hand. A failure of the provider, and one for want
of a provider, is recorded: the source counts as unverified, a warning is left, and the other parts
are those of a contract without source. Any other failure ends the fetch, and the whole analysis
with it, where the parts that are looked into later would only have been replaced by a default.

## Key results

- `Analyzer.contractOf_withoutSource`: the snapshot of a lookup that fails shows no source
- `Analyzer.value_fetch_of_source_failed`: a failure that is not recorded ends the fetch
- `Analyzer.survives_source_iff`: when an analysis goes on without the source
-/

namespace TokenRisk

/-- Sources that know of no source, and take as long to say so. -/
def Sources.withoutSource (s : Sources) : Sources :=
  { s with
    source := fun address chainId => { s.source address chainId with answer := .ok none } }

/-- The outcome `o` goes on without the source: it is degraded, the source counts as unverified, and
all other parts are those of `o'`. -/
structure Outcome.SurvivesBeside (o o' : Outcome) : Prop where
  degraded : ∃ x reason, o = .degraded x reason
  unverified : o.analysis.signals.findings.unverifiedCode = true
  standard : o.analysis.signals.standard = o'.analysis.signals.standard
  ownership : o.analysis.signals.ownership = o'.analysis.signals.ownership
  holders : o.analysis.signals.holders = o'.analysis.signals.holders

namespace Analyzer

variable (a : Analyzer)

/-! ## The snapshot -/

/-- The contract of a `snapshot` depends on the source that was answered, not on why there is
none. -/
theorem contract_snapshot_of_source_failed (address : String) (chainId : Int)
    (code : Except Failure String) (f : Failure) :
    (snapshot address chainId code (.error f)).contract =
      (snapshot address chainId code (.ok none)).contract := rfl

/-- The `sourceAnswer` of `withoutSource` is none, or late. -/
private theorem sourceAnswer_withoutSource (address : String) (chainId : Int) :
    (a.asking a.sources.withoutSource).sourceAnswer address chainId =
      if Timed.runsOut a.callLimit (a.sources.source address chainId).delay then
        .error (.provider Sources.explorer (.timeout a.callLimit))
      else .ok none :=
  Reply.value_awaitWithin _ _ _ _

/-- `contractOf` is the contract that has no source, where the lookup of source fails. -/
theorem contractOf_withoutSource (address : String) (chainId : Int) (f : Failure)
    (hsource : a.sourceAnswer address chainId = .error f) :
    (a.asking a.sources.withoutSource).contractOf address chainId =
      a.contractOf address chainId := by
  unfold contractOf
  rw [hsource, contract_snapshot_of_source_failed, sourceAnswer_withoutSource]
  split <;> rfl

/-- `HasCode` lasts where there is no source. -/
private theorem hasCode_withoutSource (address : String) (chainId : Int)
    (hcode : ∃ code, a.codeAnswer address chainId = .ok code ∧ Bytecode.digits code ≠ "") :
    (a.asking a.sources.withoutSource).HasCode address chainId := by
  refine ⟨hcode, fun f hf => ?_⟩
  rw [sourceAnswer_withoutSource] at hf
  split at hf
  · rw [← Except.error.inj hf]
    rfl
  · cases hf

/-! ## The fetch -/

/-- A failure that is not recorded ends the `fetch` of code and source. -/
theorem value_fetch_of_source_failed (address : String) (chainId : Int) (code : String)
    (f : Failure) (hcode : a.codeAnswer address chainId = .ok code)
    (hsource : a.sourceAnswer address chainId = .error f) (hf : isRecorded f = false) :
    (a.fetch address chainId).value = .error f := by
  have hleft : ((a.sources.askCode a.callLimit address chainId).map recorded).value =
      .ok (.ok code) := congrArg recorded hcode
  have hright : ((a.sources.askSource a.callLimit address chainId).map recorded).value =
      .error f := by
    rw [Timed.value_map, show (a.sources.askSource a.callLimit address chainId).value = .error f
      from hsource]
    simp only [recorded, hf, Bool.false_eq_true, ↓reduceIte]
  -- Of the two tasks, only that of the source fails, and its failure ends the wait.
  unfold fetch Timed.both
  simp only [Timed.value_map, Timed.value_spawned] at hleft hright ⊢
  simp only [hleft, hright]

/-! ## The analysis -/

/-- A lookup of source that fails leaves something in `warningsOf`. -/
private theorem warningsOf_of_source_failed (address : String) (chainId : Int) (f : Failure)
    (hsource : a.sourceAnswer address chainId = .error f) :
    a.warningsOf address chainId ≠ [] := by
  intro hnil
  have hlookups := (List.append_eq_nil_iff.mp hnil).1
  rw [hsource] at hlookups
  exact absurd (List.append_eq_nil_iff.mp hlookups).2 (List.cons_ne_nil _ _)

/-- `findingsOf` a contract counts the source as unverified where its lookup fails. -/
private theorem unverified_of_source_failed (address : String) (chainId : Int) (f : Failure)
    (hsource : a.sourceAnswer address chainId = .error f) :
    (a.findingsOf (a.contractOf address chainId)).unverifiedCode = true := by
  cases hverified : (a.findingsOf (a.contractOf address chainId)).unverifiedCode with
  | true => rfl
  | false =>
    have htext := a.hasSource_of_verified _ hverified
    unfold contractOf at htext
    rw [hsource] at htext
    cases htext

/-- A failed lookup has its failure as `sourceAnswer`, unless the limit runs out before. -/
private theorem sourceAnswer_of_failed (address : String) (chainId : Int) (f : Failure)
    (hsource : (a.sources.source address chainId).answer = .error f) :
    ∃ g, a.sourceAnswer address chainId = .error g ∧
      (isRecorded g = true ↔
        Timed.runsOut a.callLimit (a.sources.source address chainId).delay = true ∨
          isRecorded f = true) ∧
      (isRecorded g = false → g = f) := by
  have hanswer : a.sourceAnswer address chainId = _ := Reply.value_awaitWithin _ _ _ _
  rw [hsource] at hanswer
  by_cases hlate : Timed.runsOut a.callLimit (a.sources.source address chainId).delay = true
  · rw [if_pos hlate] at hanswer
    exact ⟨_, hanswer, iff_of_true rfl (.inl hlate), fun hlost => by cases hlost⟩
  · rw [if_neg hlate] at hanswer
    exact ⟨f, hanswer, (or_iff_right hlate).symm, fun _ => rfl⟩

/-- If the failure is recorded, the outcome goes on beside that of `withoutSource`. -/
private theorem survivesBeside_outcomeOf (address : String) (chainId : Int) (f : Failure)
    (hsource : a.sourceAnswer address chainId = .error f) (notes warnings' : List String) :
    (a.outcomeOf (a.contractOf address chainId) notes (a.warningsOf address chainId)
      (a.signalsOf (a.contractOf address chainId))).SurvivesBeside
        ((a.asking a.sources.withoutSource).outcomeOf
          ((a.asking a.sources.withoutSource).contractOf address chainId) notes warnings'
          ((a.asking a.sources.withoutSource).signalsOf
            ((a.asking a.sources.withoutSource).contractOf address chainId))) := by
  rw [a.contractOf_withoutSource address chainId f hsource]
  constructor
  case degraded =>
    obtain ⟨x, hx⟩ := (a.tells_outcomeOf _ _ _ _).degraded
      (a.warningsOf_of_source_failed address chainId f hsource)
    exact ⟨x, _, hx⟩
  case unverified =>
    rw [analysis_outcomeOf]
    exact a.unverified_of_source_failed address chainId f hsource
  -- No other part asks for the source.
  all_goals
    rw [analysis_outcomeOf, analysis_outcomeOf]
    rfl

/-- If the source of a token with code cannot be had, `analyze` goes on without it exactly if the
limit ran out on the lookup or its failure is recorded. Otherwise the failure takes the place of all
that could be found. -/
theorem survives_source_iff (address : Option String) (chainId : Int) (check : Address.Check)
    (f : Failure) (hcheck : Address.check a.scheme address = .ok check)
    (hvalid : check.isValid = true) (hsupported : Chain.isSupported chainId = true)
    (hcode : ∃ code, a.codeAnswer (Text.lower (address.getD "")) chainId = .ok code ∧
      Bytecode.digits code ≠ "")
    (hsource : (a.sources.source (Text.lower (address.getD "")) chainId).answer = .error f) :
    ∃ o o', (a.analyze address chainId).value = .ok o ∧
      ((a.asking a.sources.withoutSource).analyze address chainId).value = .ok o' ∧
      (o.SurvivesBeside o' ↔
        Timed.runsOut a.callLimit
            (a.sources.source (Text.lower (address.getD "")) chainId).delay = true ∨
          isRecorded f = true) ∧
      (¬ o.SurvivesBeside o' → o = a.failure (Text.lower (address.getD "")) chainId
        (.unexpected f.description) [] Analysis.failedAdvice) := by
  have hvalue := a.value_analyze_of_check address chainId check hcheck
  have hvalue' := (a.asking a.sources.withoutSource).value_analyze_of_check address chainId check
    hcheck
  rw [if_pos hvalid, if_pos hsupported] at hvalue hvalue'
  rw [(a.asking a.sources.withoutSource).value_analyzeValid_eq _ chainId check.warnings
    (a.hasCode_withoutSource _ chainId hcode)] at hvalue'
  refine ⟨_, _, hvalue, hvalue', ?_⟩
  obtain ⟨g, hanswer, hiff, hsame⟩ := a.sourceAnswer_of_failed _ chainId f hsource
  rw [← hiff]
  cases hg : isRecorded g with
  | true =>
    -- The failure is recorded, and the parts are looked into without the source.
    have hcoded : a.HasCode (Text.lower (address.getD "")) chainId := by
      refine ⟨hcode, fun g' hg' => ?_⟩
      rw [hanswer] at hg'
      rwa [← Except.error.inj hg']
    rw [a.value_analyzeValid_eq _ chainId check.warnings hcoded]
    have hsurvives := a.survivesBeside_outcomeOf _ chainId g hanswer check.warnings
      ((a.asking a.sources.withoutSource).warningsOf (Text.lower (address.getD "")) chainId)
    exact ⟨iff_of_true hsurvives rfl, fun hnot => absurd hsurvives hnot⟩
  | false =>
    -- The failure ends the fetch, and with it the analysis of the address.
    obtain rfl := hsame hg
    obtain ⟨code, hcode, _⟩ := hcode
    have hfailed : (a.analyzeValid (Text.lower (address.getD "")) chainId check.warnings).value =
        .error g := by
      unfold analyzeValid
      rw [Timed.value_bind, a.value_fetch_of_source_failed _ chainId code g hcode hanswer hg]
      rfl
    rw [hfailed]
    -- What is then in its place is no degraded outcome.
    refine ⟨iff_of_false (fun hsurvives => ?_) (by decide), fun _ => rfl⟩
    obtain ⟨x, reason, hx⟩ := hsurvives.degraded
    cases hx

/-- A fault in the lookup of the plain token's source leaves nothing of what `analyze` would
find. -/
theorem analysis_lost_with_source :
    let a := (Scene.plain (.ok []) 0).analyzer.asking
      { Sources.plain (.ok []) with
        source := fun _ _ => { answer := .error (.fault .runtime "boom") } }
    ∃ o', ((a.asking a.sources.withoutSource).analyze (some Sources.plainAddress) 1).value =
        .ok o' ∧
      (a.analyze (some Sources.plainAddress) 1).value = .ok (a.failure Sources.plainAddress 1
        (.unexpected "boom") [] Analysis.failedAdvice) ∧
      ¬ (a.failure Sources.plainAddress 1 (.unexpected "boom") []
        Analysis.failedAdvice).SurvivesBeside o' := by
  intro a
  have hlower : Text.lower Sources.plainAddress = Sources.plainAddress := by decide +kernel
  have hdigits : Bytecode.digits "0x6080" ≠ "" := by decide +kernel
  have hboom : (Failure.fault .runtime "boom").description = "boom" := by decide +kernel
  obtain ⟨o, o', ho, ho', hiff, hlost⟩ := a.survives_source_iff (some Sources.plainAddress) 1
    { address := Sources.plainAddress, isValid := true,
      warnings := ["Address is not checksummed"] } (.fault .runtime "boom") rfl rfl (by decide)
    ⟨"0x6080", rfl, hdigits⟩ rfl
  -- Neither did the limit run out, nor is the failure one that is recorded.
  have hended : ¬ o.SurvivesBeside o' := by
    rw [hiff]
    rintro (hlate | hrecorded)
    · cases hlate
    · cases hrecorded
  have hplaceholder := hlost hended
  rw [Option.getD_some, hlower, hboom] at hplaceholder
  exact ⟨o', ho', hplaceholder ▸ ho, hplaceholder ▸ hended⟩

end Analyzer

end TokenRisk
