import TokenRisk.Proofs.Verifier

/-!
# What the clock changes

A scene may stand still but for its clock. The clock puts its time on what is answered and changes
nothing else: at two times an analysis makes the same calls, takes as long and comes to the same
outcome but for the time on it (`analyze_atTime`).
-/

namespace TokenRisk

/-- The analysis without its time and its warnings. -/
def Analysis.bare (x : Analysis) : Analysis :=
  { x with timestamp := "", warnings := [] }

/-- The outcome with nothing but the `Analysis.bare` analysis. -/
def Outcome.bare : Outcome → Outcome
  | .complete x => .complete x.bare
  | .degraded x reason => .degraded x.bare reason
  | .failed x f => .failed x.bare f

@[simp] theorem Outcome.analysis_bare (o : Outcome) : o.bare.analysis = o.analysis.bare := by
  cases o <;> rfl

@[simp] theorem Outcome.isSettled_bare (o : Outcome) : o.bare.isSettled = o.isSettled := by
  cases o <;> rfl

namespace Analyzer

variable (a : Analyzer)

/-- The analyzer at another time. -/
def atTime (now : String) : Analyzer :=
  { a with now }

/-- Neither the time nor the notes on the address matter to `outcomeOf` but for the time and the
warnings on it. -/
theorem bare_outcomeOf (now : String) (contract : Contract) (notes notes' warnings : List String)
    (signals : Signals) :
    ((a.atTime now).outcomeOf contract notes warnings signals).bare =
      (a.outcomeOf contract notes' warnings signals).bare := by
  simp only [outcomeOf]
  split <;> rfl

/-- Nor do they matter to `analyzeValid`. -/
theorem analyzeValid_atTime (now : String) (address : String) (chainId : Int)
    (notes notes' : List String) :
    ((a.atTime now).analyzeValid address chainId notes).map (Except.map Outcome.bare) =
      (a.analyzeValid address chainId notes').map (Except.map Outcome.bare) := by
  simp only [analyzeValid, Timed.map_bind]
  refine congrArg (Timed.bind (a.fetch address chainId)) (funext fun fetched => ?_)
  cases fetched with
  | error f => rfl
  | ok fetched =>
    simp only []
    -- A placeholder has the time on it, and nothing else that depends on it.
    split
    · rfl
    · split
      · rfl
      · -- The parts do not look at the clock.
        rw [Timed.map_map, Timed.map_map]
        exact Timed.map_congr (a.parts fetched.contract) _ _
          (congrArg Except.ok (a.bare_outcomeOf now fetched.contract notes notes' _ _))

theorem bare_orUnexpected (now : String) (address : String) (chainId : Int)
    (x : Except Failure Outcome) :
    ((a.atTime now).orUnexpected address chainId x).bare =
      (a.orUnexpected address chainId (x.map Outcome.bare)).bare := by
  cases x with
  | error f => rfl
  | ok o => cases o <;> rfl

/-- What is left of the work after the outcome looks at the `Outcome.bare` outcome only. -/
private theorem map_orUnexpected (now : String) (address : String) (chainId : Int)
    (x : Timed Call (Except Failure Outcome)) :
    (x.map fun r => (.ok ((a.atTime now).orUnexpected address chainId r) :
        Except Failure Outcome)).map (Except.map Outcome.bare) =
      (x.map (Except.map Outcome.bare)).map fun r =>
        .ok (a.orUnexpected address chainId r).bare := by
  rw [Timed.map_map, Timed.map_map]
  exact Timed.map_congr x _ _
    (congrArg Except.ok (a.bare_orUnexpected now address chainId x.value))

/-- At another time `analyze` is the same work but for the time on its outcome. -/
theorem analyze_atTime (now : String) (address : Option String) (chainId : Int) :
    ((a.atTime now).analyze address chainId).map (Except.map Outcome.bare) =
      (a.analyze address chainId).map (Except.map Outcome.bare) := by
  simp only [analyze, show (a.atTime now).scheme = a.scheme from rfl]
  cases Address.check a.scheme address with
  | error f => rfl
  | ok check =>
    simp only []
    cases check.normalized? with
    | none => rfl
    | some normalized =>
      simp only []
      split
      · rfl
      · -- What was not planned for is wrapped in the same way at both times.
        have hvalid := a.analyzeValid_atTime now normalized chainId check.warnings check.warnings
        have hself := a.map_orUnexpected a.now normalized chainId
          (a.analyzeValid normalized chainId check.warnings)
        rw [map_orUnexpected, hvalid]
        exact hself.symm

end Analyzer

/-! ## Surveys -/

/-- The record with nothing but the `Analysis.bare` analysis. -/
def ChainRecord.bare (r : ChainRecord) : ChainRecord :=
  { r with analysis := r.analysis.map Analysis.bare }

/-- The survey of `ChainRecord.bare` records, without its time. -/
def Survey.bare (s : Survey) : Survey :=
  { s with records := s.records.map ChainRecord.bare, timestamp := "" }

namespace ChainRecord

private theorem analyses_bare (records : List ChainRecord) :
    analyses (records.map bare) = (analyses records).map Analysis.bare := by
  simp only [analyses, List.filterMap_map, List.map_filterMap]
  rfl

/-- What is counted in bare `analyses` is counted in full ones. -/
private theorem countP_analyses_bare (p : Analysis → Bool) (hp : ∀ x, p x.bare = p x)
    (records : List ChainRecord) :
    (analyses (records.map bare)).countP p = (analyses records).countP p := by
  rw [analyses_bare, List.countP_map]
  exact List.countP_congr fun x _ => by rw [Function.comp_apply, hp]

private theorem wrapped_bare (records : List ChainRecord) :
    Wrapped.ofRecords (records.map bare) = Wrapped.ofRecords records := by
  induction records with
  | nil => rfl
  | cons r records ih =>
    have hfirst : Wrapped.ofRecord? r.bare = Wrapped.ofRecord? r := by
      simp only [Wrapped.ofRecord?, bare]
      cases r.analysis <;> rfl
    simp only [List.map_cons, Wrapped.ofRecords, hfirst, ih]

end ChainRecord

/-- What `Survey.ofRecords` makes of records rests on the bare analyses. -/
theorem Survey.bare_ofRecords (now address : String) (baseChainId : Int)
    (records : List ChainRecord) :
    (Survey.ofRecords now address baseChainId records).map Survey.bare =
      Survey.ofRecords "" address baseChainId (records.map ChainRecord.bare) := by
  -- No count looks at what is left out.
  have hfound : ChainRecord.foundCount (records.map ChainRecord.bare) =
      ChainRecord.foundCount records := List.countP_map
  have hverified : ChainRecord.verifiedCount (records.map ChainRecord.bare) =
      ChainRecord.verifiedCount records := ChainRecord.countP_analyses_bare _ (fun _ => rfl) records
  have hhigh : ChainRecord.highRiskCount (records.map ChainRecord.bare) =
      ChainRecord.highRiskCount records := ChainRecord.countP_analyses_bare _ (fun _ => rfl) records
  have hmedium : ChainRecord.mediumRiskCount (records.map ChainRecord.bare) =
      ChainRecord.mediumRiskCount records :=
    ChainRecord.countP_analyses_bare _ (fun _ => rfl) records
  have hconcentrated : ChainRecord.concentratedCount (records.map ChainRecord.bare) =
      ChainRecord.concentratedCount records :=
    ChainRecord.countP_analyses_bare _ (fun _ => rfl) records
  have howners : ChainRecord.owners (records.map ChainRecord.bare) =
      ChainRecord.owners records := by
    rw [ChainRecord.owners, ChainRecord.analyses_bare, List.filterMap_map]
    rfl
  -- The indicators are computed from the counts and the owners alone.
  have hindicators : ChainRecord.bridgeIndicators (records.map ChainRecord.bare) =
      ChainRecord.bridgeIndicators records := by
    simp only [ChainRecord.bridgeIndicators, hfound, hhigh, hverified, howners, hconcentrated]
  simp only [Survey.ofRecords, ChainRecord.wrapped_bare, hfound, hverified, hhigh, hmedium,
    hindicators]
  cases Wrapped.ofRecords records <;> rfl

/-- Two analyses are the same work and come to the same outcome but for the time on it. -/
def Agree (analyze analyze' : Analyze) : Prop :=
  ∀ address chainId, (analyze address chainId).map (Except.map Outcome.bare) =
    (analyze' address chainId).map (Except.map Outcome.bare)

namespace Surveyor

variable (s : Surveyor)

/-- The surveyor with another analysis, at another time. -/
def analyzing (analyze : Analyze) (now : String) : Surveyor :=
  { s with analyze, now }

/-- A `Visit` with nothing but bare analyses. -/
def bareVisit (v : Visit) : Visit :=
  (v.1.bare, v.2.map Outcome.bare)

/-- The `bareVisit` rests on the bare outcome. -/
private theorem bareVisit_visitOf (address : String) (chainId : Int)
    (x : Option (Except Failure Outcome)) :
    bareVisit (s.visitOf address chainId x) =
      bareVisit (s.visitOf address chainId (x.map (Except.map Outcome.bare))) := by
  rcases x with _ | (f | o)
  · rfl
  · rfl
  · cases o <;> rfl

private theorem map_visit (address : String) (chainId : Int) :
    (s.visit address chainId).map bareVisit =
      ((((s.analyze (some address) chainId).map (Except.map Outcome.bare)).map some).within
        (s.chainLimit.map Number.toBinary64) none).map
          fun x => bareVisit (s.visitOf address chainId x) := by
  have hwithin := Timed.within_map (Option.map (Except.map Outcome.bare))
    (s.chainLimit.map Number.toBinary64) none ((s.analyze (some address) chainId).map some)
  rw [Timed.map_map, Option.map_none] at hwithin
  simp only [Option.map_some] at hwithin
  rw [Timed.map_map, hwithin, Timed.map_map, visit, Timed.map_map]
  refine Timed.map_congr _ _ _ ?_
  exact s.bareVisit_visitOf address chainId _

/-- A survey with nothing but bare analyses, with the outcomes on the chains. -/
def bareRun (x : Survey × List (Int × Outcome)) : Survey × List (Int × Outcome) :=
  (x.1.bare, x.2.map fun y => (y.1, y.2.bare))

/-- What visits add up to rests on the `bareVisit` of each. -/
private theorem bareRun_ofVisits (now address : String) (baseChainId : Int)
    (visits : List Visit) :
    (do
      let survey ← Survey.ofRecords now address baseChainId (visits.map (·.1))
      return (survey, visits.filterMap fun v => v.2.map fun outcome => (v.1.chainId, outcome)) :
        Except Failure (Survey × List (Int × Outcome))).map bareRun =
      (Survey.ofRecords "" address baseChainId ((visits.map bareVisit).map (·.1))).map fun survey =>
        (survey, (visits.map bareVisit).filterMap fun v =>
          v.2.map fun outcome => (v.1.chainId, outcome)) := by
  -- A record loses the date of its analysis, and keeps its chain and its status.
  have hrecords : (visits.map bareVisit).map (·.1) = (visits.map (·.1)).map ChainRecord.bare := by
    rw [List.map_map, List.map_map]
    rfl
  -- Outcomes stay with their chains.
  have houtcomes : ((visits.map bareVisit).filterMap fun v =>
        v.2.map fun outcome => (v.1.chainId, outcome)) =
      (visits.filterMap fun v => v.2.map fun outcome => (v.1.chainId, outcome)).map
        fun y => (y.1, y.2.bare) := by
    rw [List.filterMap_map, List.map_filterMap]
    refine congrArg (fun f => visits.filterMap f) (funext fun v => ?_)
    cases hv : v.2 <;> simp [bareVisit, ChainRecord.bare, hv]
  rw [hrecords, houtcomes, ← Survey.bare_ofRecords now]
  cases Survey.ofRecords now address baseChainId (visits.map (·.1)) <;> rfl

private theorem map_run (address : String) (targets : List Int) (baseChainId : Int) :
    ((Timed.all (s.visits address targets)).map fun visits =>
      (do
        let survey ← Survey.ofRecords s.now (Text.lower address) baseChainId (visits.map (·.1))
        return (survey, visits.filterMap fun v => v.2.map fun outcome => (v.1.chainId, outcome)) :
          Except Failure (Survey × List (Int × Outcome)))).map (Except.map bareRun) =
      (Timed.all ((s.visits address targets).map (Timed.map bareVisit))).map fun visits =>
        (Survey.ofRecords "" (Text.lower address) baseChainId (visits.map (·.1))).map fun survey =>
          (survey, visits.filterMap fun v => v.2.map fun outcome => (v.1.chainId, outcome)) := by
  rw [Timed.all_map, Timed.map_map, Timed.map_map]
  refine Timed.map_congr _ _ _ ?_
  exact bareRun_ofVisits s.now (Text.lower address) baseChainId _

variable {s} {analyze : Analyze} (h : Agree analyze s.analyze) (now : String)

include h

/-- Analyses that `Agree` visit a chain by the same work. -/
private theorem visit_analyzing (address : String) (chainId : Int) :
    ((s.analyzing analyze now).visit address chainId).map bareVisit =
      (s.visit address chainId).map bareVisit := by
  rw [map_visit, map_visit, ← h]
  rfl

/-- `stopsFrom` has the same bare visits after `analyzing`, if they start alike. -/
private theorem stopsFrom_analyzing (address : String) (starts : List Instant)
    (targets : List Int) :
    ((s.analyzing analyze now).stopsFrom address starts targets).map
        (fun v => v.run.map bareVisit) =
      (s.stopsFrom address starts targets).map fun v => v.run.map bareVisit := by
  have hstop (id : Int) (start : Instant) :
      ((s.analyzing analyze now).stopAt address id start).run.map bareVisit =
        (s.stopAt address id start).run.map bareVisit := by
    rw [run_stopAt, run_stopAt, Timed.map_bind, Timed.map_bind]
    split
    · rw [visit_analyzing h]
    · rfl
  -- A supported chain takes the first start, and the others leave the starts as they are.
  induction targets generalizing starts with
  | nil => rfl
  | cons id targets ih =>
    simp only [stopsFrom]
    split
    · split
      · exact ih []
      · rw [List.map_cons, List.map_cons, hstop, ih]
    · rw [List.map_cons, List.map_cons, hstop, ih]

/-- `visits` start alike after `analyzing`, and are the same but for their dates. -/
private theorem visits_analyzing (address : String) (targets : List Int) :
    ((s.analyzing analyze now).visits address targets).map (Timed.map bareVisit) =
      (s.visits address targets).map (Timed.map bareVisit) := by
  have hfinish (id : Int) : ((s.analyzing analyze now).visit address id).finish =
      (s.visit address id).finish :=
    show (((s.analyzing analyze now).visit address id).map bareVisit).finish = _ by
      rw [visit_analyzing h]
      rfl
  simp only [visits, stops, List.map_map, hfinish]
  exact stopsFrom_analyzing h now address _ targets

/-- Analyses that `Agree` survey by the same work. -/
theorem run_analyzing (address : String) (chainIds : Option (List Int)) (baseChainId : Int) :
    ((s.analyzing analyze now).run address chainIds baseChainId).map (Except.map bareRun) =
      (s.run address chainIds baseChainId).map (Except.map bareRun) := by
  simp only [run, show (s.analyzing analyze now).slots = s.slots from rfl]
  split
  · rfl
  · split
    · rfl
    · rw [map_run, map_run, visits_analyzing h]

end Surveyor

/-! ## Verifications -/

/-- A decision, a bare analysis and a bare survey. -/
abbrev Content := Decision × Option Analysis × Option Survey

/-- What an answer says, but for its identifier, its time and its wording. -/
def Verification.content (a : Verification) : Content :=
  (a.decision, a.analysis.map Analysis.bare, a.survey.map Survey.bare)

/-- `decide` rests on the bare analysis and the bare survey. -/
theorem Decision.decide_bare (x : Analysis) (survey : Option Survey) :
    decide x.bare (survey.map Survey.bare) = decide x survey := by
  cases survey <;> rfl

namespace Verifier

private theorem lookup_bare (outcomes : List (Int × Outcome)) (chainId : Int) :
    (outcomes.map fun y => (y.1, y.2.bare)).lookup chainId =
      (outcomes.lookup chainId).map Outcome.bare := by
  induction outcomes with
  | nil => rfl
  | cons y outcomes ih =>
    obtain ⟨id, o⟩ := y
    simp only [List.map_cons, List.lookup_cons, ih]
    cases chainId == id <;> rfl

/-- The outcome on a chain and a survey, from the work on each. -/
private def beside (chainId : Int) (isTarget : Bool)
    (analysis : Timed Call (Except Failure Outcome))
    (survey : Timed Call (Except Failure (Survey × List (Int × Outcome)))) :
    Timed Call (Except Failure (Outcome × Survey)) :=
  if !isTarget then
    (Timed.both analysis survey).map fun
      | .ok (outcome, survey, _) => .ok (outcome, survey)
      | .error f => .error f
  else
    survey.bind fun
      | .error f => pure (.error f)
      | .ok (survey, outcomes) =>
        match outcomes.lookup chainId with
        | some outcome => pure (.ok (outcome, survey))
        | none => analysis.map fun r => r.map (·, survey)

/-- What `beside` comes to rests on the bare outcome and the bare survey. -/
private theorem map_beside (chainId : Int) (isTarget : Bool)
    (analysis : Timed Call (Except Failure Outcome))
    (survey : Timed Call (Except Failure (Survey × List (Int × Outcome)))) :
    (beside chainId isTarget analysis survey).map
        (Except.map (Prod.map Outcome.bare Survey.bare)) =
      beside chainId isTarget (analysis.map (Except.map Outcome.bare))
        (survey.map (Except.map Surveyor.bareRun)) := by
  cases isTarget with
  | false =>
    -- Side by side, each of the two loses its dates on its own.
    simp only [beside, Bool.not_false, ↓reduceIte, Timed.both_map, Timed.map_map]
    refine Timed.map_congr _ _ _ ?_
    cases (Timed.both analysis survey).value <;> rfl
  | true =>
    -- One after the other, the survey loses its dates before the chain is looked for in it.
    simp only [beside, Bool.not_true, Bool.false_eq_true, ↓reduceIte, Timed.map_bind,
      Timed.bind_map]
    refine Timed.bind_congr _ _ _ ?_
    rcases survey.value with f | ⟨s, outcomes⟩
    · rfl
    · simp only [Except.map, Surveyor.bareRun, lookup_bare]
      cases outcomes.lookup chainId with
      | some o => rfl
      -- The chain is analyzed once more, which agrees as well.
      | none =>
        simp only [Option.map_none, Timed.map_map]
        refine Timed.map_congr _ _ _ ?_
        cases analysis.value <;> rfl

end Verifier

namespace Scene

variable (c : Scene)

/-- The `Scene` at another time. -/
def atTime (ms : Int) : Scene :=
  { c with analyzer := c.analyzer.atTime (timestamp ms), nowMs := ms }

@[simp] theorem chainOf_atTime (ms : Int) (r : Request) :
    (c.atTime ms).chainOf r = c.chainOf r := by
  simp only [chainOf, atTime]

@[simp] theorem scheme_atTime (ms : Int) :
    (c.atTime ms).analyzer.scheme = c.analyzer.scheme := by
  simp only [atTime, Analyzer.atTime]

@[simp] theorem keyOf_atTime (ms : Int) (r : Request) :
    (c.atTime ms).verifier.keyOf r = c.verifier.keyOf r := by
  rw [keyOf_verifier, keyOf_verifier, chainOf_atTime]

/-- What the answer of work says, and its bare outcome. -/
def workContent (work : Work) : Except Failure (Content × Outcome) :=
  work.map fun x => (x.1.content, x.2.bare)

/-- What an answer from an outcome and a survey says. -/
private def contentOf (o : Outcome) (survey : Option Survey) : Content × Outcome :=
  ((Decision.decide o.analysis survey, some o.analysis, survey), o)

/-- The `workContent` of `work` rests on the bare outcome and the bare survey. -/
private theorem map_work (id : String) (r : Request) :
    (c.verifier.work id r).map workContent =
      if r.crossChain then
        (Verifier.beside (c.chainOf r) ((Surveyor.targets r.chainIds).contains (c.chainOf r))
          ((c.analyzer.analyze r.tokenAddress (c.chainOf r)).map (Except.map Outcome.bare))
          ((c.surveyor.run r.addressText (some (Surveyor.targets r.chainIds)) (c.chainOf r)).map
            (Except.map Surveyor.bareRun))).map (Except.map fun x => contentOf x.1 (some x.2))
      else
        ((c.analyzer.analyze r.tokenAddress (c.chainOf r)).map (Except.map Outcome.bare)).map
          (Except.map fun o => contentOf o none) := by
  -- The decision is made from what the bare parts tell.
  have hcontent (o : Outcome) (survey : Option Survey) :
      ((c.verifier.answer id r o survey).content, o.bare) =
        contentOf o.bare (survey.map Survey.bare) := by
    simp only [contentOf, Outcome.analysis_bare, Decision.decide_bare]
    rfl
  simp only [Verifier.work]
  -- The outer work only puts together what the two pieces come to.
  split
  · rw [← Verifier.map_beside, Timed.map_map, Timed.map_map]
    refine Timed.map_congr (c.verifier.analyzeWithSurvey r (c.chainOf r)) _ _ ?_
    cases (c.verifier.analyzeWithSurvey r (c.chainOf r)).value with
    | error f => rfl
    | ok x => exact congrArg Except.ok (hcontent x.1 (some x.2))
  · rw [Timed.map_map, Timed.map_map]
    refine Timed.map_congr (c.analyzer.analyze r.tokenAddress (c.chainOf r)) _ _ ?_
    cases (c.analyzer.analyze r.tokenAddress (c.chainOf r)).value with
    | error f => rfl
    | ok o => exact congrArg Except.ok (hcontent o none)

/-- At another time the `work` on a request takes as long, makes the same calls and comes to the
same content. -/
theorem work_atTime (ms : Int) (id id' : String) (r : Request) :
    ((c.atTime ms).verifier.work id r).map workContent =
      (c.verifier.work id' r).map workContent := by
  have hagree : Agree (c.atTime ms).analyzer.analyze c.surveyor.analyze :=
    c.analyzer.analyze_atTime (timestamp ms)
  have hanalyze := hagree r.tokenAddress (c.chainOf r)
  have hrun := Surveyor.run_analyzing hagree (timestamp ms) r.addressText
    (some (Surveyor.targets r.chainIds)) (c.chainOf r)
  rw [map_work, map_work, chainOf_atTime, hanalyze]
  rw [show (c.atTime ms).surveyor =
    c.surveyor.analyzing (c.atTime ms).analyzer.analyze (timestamp ms) from rfl, hrun]
  rfl

/-- Requests for the same address on the same chain are the same `work` as long as their targets are
the same. -/
theorem work_congr (id id' : String) (r r' : Request) (haddress : r'.tokenAddress = r.tokenAddress)
    (hchain : c.chainOf r' = c.chainOf r) (hcross : r'.crossChain = r.crossChain)
    (htargets : Surveyor.targets r'.chainIds = Surveyor.targets r.chainIds) :
    (c.verifier.work id' r').map workContent = (c.verifier.work id r).map workContent := by
  have htext : r'.addressText = r.addressText := congrArg (Option.getD · "") haddress
  rw [map_work, map_work, haddress, hchain, hcross, htargets, htext]

end Scene

end TokenRisk
