import TokenRisk.Proofs.Isolation
import TokenRisk.Proofs.Lookups
import TokenRisk.Proofs.Resurvey

/-!
# Each chain once

A request for a survey looks up its token on every supported chain that it is about, the requested
one and the targets, and on each of them once. Only where the visit of the requested chain runs out
of time is that chain analyzed, and looked up, once more. If the visit comes to an outcome instead,
the analysis of the answer is the one of the survey.

## Key results

- `Timed.looksUp_of_filter_asked`: how often a chain is looked up, from the list of lookups
- `Scene.filter_asked_work`: the lookups of a request for a survey, in order
- `Scene.viewsAgree_of_work`: the two views of an answer on the requested chain agree
- `Scene.looks_up_once_per_chain`: both together for a request that is not remembered
-/

namespace TokenRisk

/-! ## Counting lookups -/

namespace Call

/-- Whether a call asks for the code of a contract on a chain. -/
def isCodeOn (chainId : Int) : Call → Bool
  | .code _ id => id == chainId
  | _ => false

/-- Whether a call asks for the source of a contract on a chain. -/
def isSourceOn (chainId : Int) : Call → Bool
  | .source _ id => id == chainId
  | _ => false

theorem isLookup_of_isCodeOn {chainId : Int} (k : Call) (h : k.isCodeOn chainId = true) :
    k.isLookup = true := by
  cases k <;> first | rfl | cases h

theorem isLookup_of_isSourceOn {chainId : Int} (k : Call) (h : k.isSourceOn chainId = true) :
    k.isLookup = true := by
  cases k <;> first | rfl | cases h

/-- The `lookups` on some chains are on a chain as often as that is one of them. -/
theorem countP_lookups (address : String) (chainIds : List Int) (chainId : Int) :
    (chainIds.flatMap (lookups address)).countP (isCodeOn chainId) = chainIds.count chainId ∧
      (chainIds.flatMap (lookups address)).countP (isSourceOn chainId) =
        chainIds.count chainId := by
  induction chainIds with
  | nil => exact ⟨rfl, rfl⟩
  | cons id chainIds ih =>
    rw [List.flatMap_cons, List.countP_append, List.countP_append, ih.1, ih.2, List.count_cons]
    cases hid : id == chainId <;>
      simp [lookups, isCodeOn, isSourceOn, hid, Nat.add_comm]

end Call

namespace Timed

variable {α β : Type}

/-- Work asks so many times for the code of a contract on a chain and as many times for its source,
in the time that it takes as well as afterwards. -/
structure LooksUp (run : Timed Call α) (chainId : Int) (times : Nat) : Prop where
  codeMade : run.callsMade.countP (Call.isCodeOn chainId) = times
  sourceMade : run.callsMade.countP (Call.isSourceOn chainId) = times
  code : run.asked.countP (Call.isCodeOn chainId) = times
  source : run.asked.countP (Call.isSourceOn chainId) = times

theorem LooksUp.map {run : Timed Call α} {chainId : Int} {times : Nat}
    (h : run.LooksUp chainId times) (f : α → β) : (run.map f).LooksUp chainId times :=
  ⟨h.codeMade, h.sourceMade, h.code, h.source⟩

/-- What punctual work `LooksUp`. -/
theorem looksUp_of_filter_asked {run : Timed Call α} (hpunctual : run.IsPunctual Call.isLookup)
    (address : String) (chainIds : List Int)
    (h : run.asked.filter Call.isLookup = chainIds.flatMap (Call.lookups address))
    (chainId : Int) : run.LooksUp chainId (chainIds.count chainId) := by
  -- Calls for code or for source are lookups, so it is enough to count among these.
  have hkind (q : Call → Bool) (hq : ∀ k, q k = true → k.isLookup = true) :
      run.asked.countP q = (run.asked.filter Call.isLookup).countP q := by
    rw [List.countP_filter]
    refine List.countP_congr fun k _ => ?_
    simpa using hq k
  have hcode : run.asked.countP (Call.isCodeOn chainId) = chainIds.count chainId := by
    rw [hkind _ Call.isLookup_of_isCodeOn, h, (Call.countP_lookups address chainIds chainId).1]
  have hsource : run.asked.countP (Call.isSourceOn chainId) = chainIds.count chainId := by
    rw [hkind _ Call.isLookup_of_isSourceOn, h, (Call.countP_lookups address chainIds chainId).2]
  exact {
    codeMade := (countP_callsMade (hpunctual.mono Call.isLookup_of_isCodeOn)).trans hcode
    sourceMade := (countP_callsMade (hpunctual.mono Call.isLookup_of_isSourceOn)).trans hsource
    code := hcode
    source := hsource }

end Timed

/-! ## The work on a request for a survey -/

namespace Scene

variable (c : Scene)

/-- The chains that a request for a survey is about: its `targets` and the requested one. -/
def chainsOf (r : Request) : List Int :=
  if c.chainOf r ∈ Surveyor.targets r.chainIds then Surveyor.targets r.chainIds
  else c.chainOf r :: Surveyor.targets r.chainIds

theorem mem_chainsOf (r : Request) (id : Int) :
    id ∈ c.chainsOf r ↔ id ∈ Surveyor.targets r.chainIds ∨ id = c.chainOf r := by
  rw [chainsOf]
  split
  · rename_i hbase
    refine ⟨.inl, ?_⟩
    rintro (hid | rfl)
    · exact hid
    · exact hbase
  · rw [List.mem_cons, or_comm]

theorem nodup_chainsOf (r : Request) : (c.chainsOf r).Nodup := by
  rw [chainsOf]
  split
  · exact Surveyor.nodup_targets r.chainIds
  · rename_i hbase
    exact List.nodup_cons.mpr ⟨hbase, Surveyor.nodup_targets r.chainIds⟩

/-- The visit of the requested chain is broken off by the limit for a chain: nothing is
`reached`. -/
def TimesOut (r : Request) : Prop :=
  c.chainOf r ∈ Surveyor.targets r.chainIds ∧ Chain.isSupported (c.chainOf r) = true ∧
    c.surveyor.reached r.addressText (c.chainOf r) = none

/-- The survey of a request. -/
abbrev surveyRun (r : Request) :
    Timed Call (Except Failure (Survey × List (Int × Outcome))) :=
  c.surveyor.run r.addressText (some (Surveyor.targets r.chainIds)) (c.chainOf r)

/-- The analysis of the requested chain apart from the survey. -/
abbrev baseRun (r : Request) : Timed Call (Except Failure Outcome) :=
  c.analyzer.analyze r.tokenAddress (c.chainOf r)

/-- What follows on a survey that has the requested chain among its targets. -/
def afterSurvey (r : Request) :
    Except Failure (Survey × List (Int × Outcome)) →
      Timed Call (Except Failure (Outcome × Survey))
  | .error f => pure (.error f)
  | .ok (survey, outcomes) =>
    match outcomes.lookup (c.chainOf r) with
    | some outcome => pure (.ok (outcome, survey))
    | none => (c.baseRun r).map fun x => x.map (·, survey)

section

variable {c} {r : Request}

/-- In `afterSurvey` there is no more to do, or the requested chain is analyzed. -/
theorem afterSurvey_cases (x : Except Failure (Survey × List (Int × Outcome))) :
    (∃ y, c.afterSurvey r x = pure y) ∨ ∃ finish, c.afterSurvey r x = (c.baseRun r).map finish := by
  rcases x with f | ⟨survey, outcomes⟩
  · exact .inl ⟨_, rfl⟩
  · rw [afterSurvey]
    split
    · exact .inl ⟨_, rfl⟩
    · exact .inr ⟨_, rfl⟩

/-- The `work` on a request for a survey is that on the outcome and the survey. -/
theorem work_of_crossChain (id : String) (hcross : r.crossChain = true) :
    c.verifier.work id r = (c.verifier.analyzeWithSurvey r (c.chainOf r)).map fun x =>
      x.map fun (o, survey) => (c.verifier.answer id r o (some survey), o) := by
  rw [Verifier.work, if_pos hcross]
  rfl

/-- `analyzeWithSurvey` analyzes the requested chain beside the survey if it is no target. -/
theorem analyzeWithSurvey_beside (htarget : c.chainOf r ∉ Surveyor.targets r.chainIds) :
    ∃ finish, c.verifier.analyzeWithSurvey r (c.chainOf r) =
      (Timed.both (c.baseRun r) (c.surveyRun r)).map finish := by
  rw [Verifier.analyzeWithSurvey, if_pos (by simpa using htarget)]
  exact ⟨_, rfl⟩

/-- If the requested chain is a target, `analyzeWithSurvey` has the survey come first. -/
theorem analyzeWithSurvey_among (htarget : c.chainOf r ∈ Surveyor.targets r.chainIds) :
    c.verifier.analyzeWithSurvey r (c.chainOf r) = (c.surveyRun r).bind (c.afterSurvey r) := by
  rw [Verifier.analyzeWithSurvey, if_neg (by simpa using htarget)]
  rfl

/-- The `work` on a request asks nothing that no analysis of its address asks. -/
theorem exists_of_mem_asked_work (id : String) {k : Call} (hk : k ∈ (c.verifier.work id r).asked) :
    ∃ address chainId, address.getD "" = r.addressText ∧
      k ∈ (c.analyzer.analyze address chainId).asked := by
  -- Whatever part asks, it asks about the text of the requested address.
  have hbase (h : k ∈ (c.baseRun r).asked) : ∃ address chainId,
      address.getD "" = r.addressText ∧ k ∈ (c.analyzer.analyze address chainId).asked :=
    ⟨r.tokenAddress, _, rfl, h⟩
  have hsurvey (h : k ∈ (c.surveyRun r).asked) : ∃ address chainId,
      address.getD "" = r.addressText ∧ k ∈ (c.analyzer.analyze address chainId).asked := by
    obtain ⟨chainId, hk⟩ := c.surveyor.exists_of_mem_asked_run _ _ _ k h
    exact ⟨some r.addressText, chainId, rfl, hk⟩
  -- With a survey the requested chain is analyzed beside it, or after it if at all.
  by_cases hcross : r.crossChain = true
  · rw [work_of_crossChain id hcross, Timed.asked_map] at hk
    by_cases htarget : c.chainOf r ∈ Surveyor.targets r.chainIds
    · rw [analyzeWithSurvey_among htarget, Timed.asked_bind] at hk
      rcases List.mem_append.mp hk with hk | hk
      · -- The survey asks first, and only then an analysis that it left open.
        exact hsurvey hk
      · rcases afterSurvey_cases (c.surveyRun r).value with ⟨y, hafter⟩ | ⟨_, hafter⟩
        · rw [hafter] at hk
          cases hk
        · rw [hafter, Timed.asked_map] at hk
          exact hbase hk
    · obtain ⟨finish, hbeside⟩ := analyzeWithSurvey_beside htarget
      rw [hbeside, Timed.asked_map, Timed.asked_both] at hk
      exact (List.mem_append.mp hk).elim hbase hsurvey
  · rw [Verifier.work, if_neg hcross, Timed.asked_map] at hk
    exact hbase hk

/-- The `work` on a request about what is no address makes no call. -/
theorem asked_work_of_not_isAddress (id : String) (h : Address.isAddress r.addressText = false) :
    (c.verifier.work id r).asked = [] := by
  refine List.eq_nil_iff_forall_not_mem.mpr fun k hk => ?_
  obtain ⟨address, chainId, haddress, hk⟩ := exists_of_mem_asked_work id hk
  rw [c.analyzer.asked_analyze_of_not_isAddress address chainId (by rw [haddress, h])] at hk
  cases hk

variable (hcall : Timed.IsOpen c.analyzer.callLimit)
  (hchain : Timed.IsOpen (c.chainLimit.map Number.toBinary64))
  (hslots : c.surveyor.HasSlots (Surveyor.targets r.chainIds))
  (haddress : Address.IsCanonical r.addressText)

include hcall haddress in
private theorem filter_asked_baseRun :
    (c.baseRun r).asked.filter Call.isLookup = ([c.chainOf r].filter Chain.isSupported).flatMap
      (Call.lookups (Text.lower r.addressText)) :=
  c.analyzer.filter_asked_of_isCanonical hcall r.tokenAddress (c.chainOf r) haddress

include hcall hchain hslots haddress in
/-- `surveyRun` looks up its supported targets. -/
private theorem filter_asked_surveyRun :
    (c.surveyRun r).asked.filter Call.isLookup =
      ((Surveyor.targets r.chainIds).filter Chain.isSupported).flatMap
        (Call.lookups (Text.lower r.addressText)) := by
  have hrun := c.surveyor.filter_asked_run r.addressText (some (Surveyor.targets r.chainIds))
    (c.chainOf r) (by rwa [Surveyor.targets_targets]) hchain
    (fun id => c.analyzer.isPrompt_analyze (some r.addressText) id)
    (Call.lookups (Text.lower r.addressText)) fun id hsupported =>
      c.analyzer.filter_asked_analyze hcall (some r.addressText) id
        ((c.analyzer.startsOn_iff_of_isCanonical (some r.addressText) id haddress).mpr hsupported)
  rwa [Surveyor.targets_targets] at hrun

include hslots in
/-- `surveyRun` comes to a survey exactly if it `ReadsNames`. -/
private theorem surveyRun_isOk_iff :
    (∃ result, (c.surveyRun r).value = .ok result) ↔
      c.surveyor.ReadsNames r.addressText r.chainIds := by
  rw [Surveyor.run_isOk_iff _ (by rwa [Surveyor.targets_targets]), Surveyor.ReadsNames,
    Surveyor.targets_targets]
  rfl

include haddress in
/-- The visit of the requested chain `TimesOut` exactly if that chain is supported and the visit
comes to no outcome. -/
private theorem timesOut_iff (htarget : c.chainOf r ∈ Surveyor.targets r.chainIds) :
    c.TimesOut r ↔ Chain.isSupported (c.chainOf r) = true ∧
      (c.surveyor.visitOn r.addressText (c.chainOf r)).2 = none := by
  have hnone : (c.surveyor.visitOn r.addressText (c.chainOf r)).2 = none ↔
      ∀ o, (c.surveyor.visitOn r.addressText (c.chainOf r)).2 ≠ some o :=
    Option.eq_none_iff_forall_ne_some
  simp only [TimesOut, htarget, true_and, hnone, ne_eq, Surveyor.outcome_visitOn_iff]
  refine and_congr_right fun hsupported => ?_
  constructor
  · intro hreached o hvisit
    rw [hreached] at hvisit
    cases hvisit.2
  · -- In time, the analysis comes to an outcome.
    intro hvisit
    rcases hreached : c.surveyor.reached r.addressText (c.chainOf r) with _ | (f | o)
    · rfl
    · obtain ⟨o, ho⟩ := c.analyzer.analyze_isOk_of_isCanonical (some r.addressText) (c.chainOf r)
        haddress
      rw [c.reached_eq_some _ _ _ hreached] at ho
      cases ho
    · exact absurd ⟨hsupported, hreached⟩ (hvisit o)

include hcall hslots haddress in
/-- If the requested chain is a target, `afterSurvey` looks it up exactly if its visit timed out and
the survey came about. -/
private theorem filter_asked_afterSurvey
    (htarget : c.chainOf r ∈ Surveyor.targets r.chainIds) :
    ∃ again : List Int,
      (c.afterSurvey r (c.surveyRun r).value).asked.filter Call.isLookup =
        again.flatMap (Call.lookups (Text.lower r.addressText)) ∧
      (again = [c.chainOf r] ∧ c.TimesOut r ∧ c.surveyor.ReadsNames r.addressText r.chainIds ∨
        again = [] ∧
          ¬ (c.TimesOut r ∧ c.surveyor.ReadsNames r.addressText r.chainIds)) := by
  rw [timesOut_iff haddress htarget, ← surveyRun_isOk_iff hslots]
  -- The outcome in the list is that of the visit.
  have hlookup (survey outcomes) (h : (c.surveyRun r).value = .ok (survey, outcomes)) :
      outcomes.lookup (c.chainOf r) = (c.surveyor.visitOn r.addressText (c.chainOf r)).2 := by
    obtain ⟨_, _, rfl⟩ := c.surveyor.run_eq_ok _ _ _ _ _ h
    rw [Surveyor.targets_targets, Surveyor.lookup_outcomesOn, if_pos htarget]
  -- Only a survey that came about without an outcome for the requested chain is followed by more.
  cases hrun : (c.surveyRun r).value with
  | error f => exact ⟨[], rfl, .inr ⟨rfl, by simp⟩⟩
  | ok result =>
    obtain ⟨survey, outcomes⟩ := result
    rw [← hlookup survey outcomes hrun, afterSurvey]
    cases outcomes.lookup (c.chainOf r) with
    | some o => exact ⟨[], rfl, .inr ⟨rfl, by simp⟩⟩
    | none =>
      rw [Timed.asked_map, filter_asked_baseRun hcall haddress]
      -- The chain is asked about once more only if it is supported.
      cases hsupported : Chain.isSupported (c.chainOf r) with
      | true => exact ⟨[c.chainOf r], by simp [hsupported], .inl ⟨rfl, by simp⟩⟩
      | false => exact ⟨[], by simp [hsupported], .inr ⟨rfl, by simp⟩⟩

include hcall hchain hslots haddress in
/-- The lookups in the `work` on a request for a survey are those of the supported ones among its
chains, and once more those of the requested chain if its visit times out and the survey comes
about. -/
theorem filter_asked_work (id : String) (hcross : r.crossChain = true) :
    ∃ again : List Int,
      (c.verifier.work id r).asked.filter Call.isLookup =
        ((c.chainsOf r).filter Chain.isSupported ++ again).flatMap
          (Call.lookups (Text.lower r.addressText)) ∧
      (again = [c.chainOf r] ∧ c.TimesOut r ∧ c.surveyor.ReadsNames r.addressText r.chainIds ∨
        again = [] ∧
          ¬ (c.TimesOut r ∧ c.surveyor.ReadsNames r.addressText r.chainIds)) := by
  have hsurvey := filter_asked_surveyRun hcall hchain hslots haddress
  rw [work_of_crossChain id hcross, Timed.asked_map]
  -- What is asked beside the survey or after it is appended to what the survey asks.
  by_cases htarget : c.chainOf r ∈ Surveyor.targets r.chainIds
  · obtain ⟨again, hafter, hagain⟩ := filter_asked_afterSurvey hcall hslots haddress htarget
    refine ⟨again, ?_, hagain⟩
    rw [analyzeWithSurvey_among htarget, Timed.asked_bind, List.filter_append, hsurvey, hafter,
      chainsOf, if_pos htarget, List.flatMap_append]
  · obtain ⟨finish, hbeside⟩ := analyzeWithSurvey_beside htarget
    refine ⟨[], ?_, .inr ⟨rfl, fun h => htarget h.1.1⟩⟩
    rw [hbeside, Timed.asked_map, Timed.asked_both, List.filter_append, hsurvey,
      filter_asked_baseRun hcall haddress, chainsOf, if_neg htarget, List.append_nil,
      ← List.flatMap_append, ← List.filter_append, List.singleton_append]

include hslots in
private theorem isPunctual_surveyRun : (c.surveyRun r).IsPunctual Call.isLookup :=
  c.surveyor.isPunctual_run _ _ _ (by rwa [Surveyor.targets_targets])
    fun id => c.analyzer.isPunctual_analyze (some r.addressText) id

include hslots haddress in
/-- The requested chain is looked up beside the survey before the wait of `both` is over, also if
the survey fails. -/
private theorem isPunctual_beside :
    (Timed.both (c.baseRun r) (c.surveyRun r)).IsPunctual Call.isLookup := by
  obtain ⟨o, ho⟩ : ∃ o, (c.baseRun r).value = .ok o :=
    c.analyzer.analyze_isOk_of_isCanonical r.tokenAddress (c.chainOf r) haddress
  have hbase := c.analyzer.isPunctual_analyze r.tokenAddress (c.chainOf r)
  have hsurvey := isPunctual_surveyRun hslots
  cases hrun : (c.surveyRun r).value with
  | ok result => exact Timed.isPunctual_both_of_ok hbase hsurvey ho hrun
  | error f =>
    -- The analysis goes on by itself, but its lookups came first.
    refine Timed.isPunctual_both_of_error
      (c.analyzer.isPrompt_analyze r.tokenAddress (c.chainOf r)) hsurvey ?_ ho hrun
    exact Instant.ble_trans c.analyzer.ble_lookupRound
      (c.surveyor.ble_finish_run_of_error _ _ _ (by rwa [Surveyor.targets_targets]) f hrun)

include hslots haddress in
/-- The `work` on a request for a survey does not end before the lookups are made. -/
theorem isPunctual_work (id : String) (hcross : r.crossChain = true) :
    (c.verifier.work id r).IsPunctual Call.isLookup := by
  rw [work_of_crossChain id hcross]
  refine Timed.IsPunctual.map ?_ _
  by_cases htarget : c.chainOf r ∈ Surveyor.targets r.chainIds
  · -- What follows the survey begins when that has ended, and looks up at once.
    have hafter : (c.afterSurvey r (c.surveyRun r).value).IsPunctual Call.isLookup ∧
        0 ≤ (c.afterSurvey r (c.surveyRun r).value).finish.time := by
      rcases afterSurvey_cases (c := c) (c.surveyRun r).value with ⟨y, hafter⟩ | ⟨_, hafter⟩
      · rw [hafter]
        exact ⟨Timed.isPunctual_pure y, Rat.le_refl⟩
      · rw [hafter]
        exact ⟨(c.analyzer.isPunctual_analyze r.tokenAddress (c.chainOf r)).map _,
          c.analyzer.time_analyze_nonneg r.tokenAddress (c.chainOf r)⟩
    rw [analyzeWithSurvey_among htarget]
    exact Timed.isPunctual_bind (isPunctual_surveyRun hslots) hafter.1 hafter.2
  · obtain ⟨finish, hbeside⟩ := analyzeWithSurvey_beside htarget
    rw [hbeside]
    exact (isPunctual_beside hslots haddress).map finish

end

/-- Each supported chain that a request is about is looked up once, and no other one. Only the
requested chain is looked up once more, where its visit times out and the survey comes about. -/
structure LooksUpOncePerChain {α : Type} (r : Request) (run : Timed Call α) : Prop where
  once : ∀ id, id ∈ Surveyor.targets r.chainIds ∨ id = c.chainOf r →
    Chain.isSupported id = true → ¬ (id = c.chainOf r ∧ c.TimesOut r) → run.LooksUp id 1
  twice : c.TimesOut r → c.surveyor.ReadsNames r.addressText r.chainIds →
    run.LooksUp (c.chainOf r) 2
  unsupported : ∀ id, Chain.isSupported id = false → run.LooksUp id 0
  others : ∀ id, id ∉ Surveyor.targets r.chainIds → id ≠ c.chainOf r → run.LooksUp id 0

variable {c} in
/-- `map` looks up the same. -/
theorem LooksUpOncePerChain.map {α β : Type} {r : Request} {run : Timed Call α}
    (h : c.LooksUpOncePerChain r run) (f : α → β) : c.LooksUpOncePerChain r (run.map f) where
  once id hmem hsupported hin := (h.once id hmem hsupported hin).map f
  twice htimeout hnames := (h.twice htimeout hnames).map f
  unsupported id hsupported := (h.unsupported id hsupported).map f
  others id htarget hne := (h.others id htarget hne).map f

/-- The `work` on a request for a survey looks up each chain once. -/
theorem looksUpOncePerChain_work {r : Request} (hcall : Timed.IsOpen c.analyzer.callLimit)
    (hchain : Timed.IsOpen (c.chainLimit.map Number.toBinary64))
    (hslots : c.surveyor.HasSlots (Surveyor.targets r.chainIds))
    (haddress : Address.IsCanonical r.addressText) (id : String) (hcross : r.crossChain = true) :
    c.LooksUpOncePerChain r (c.verifier.work id r) := by
  obtain ⟨again, hasked, hagain⟩ := filter_asked_work hcall hchain hslots haddress id hcross
  have hpunctual := isPunctual_work hslots haddress id hcross
  have hlooks := Timed.looksUp_of_filter_asked hpunctual _ _ hasked
  -- No chain is listed twice, so each supported one counts once.
  have hcount (chainId : Int) : ((c.chainsOf r).filter Chain.isSupported).count chainId =
      if chainId ∈ c.chainsOf r ∧ Chain.isSupported chainId = true then 1 else 0 := by
    have hnodup : ((c.chainsOf r).filter Chain.isSupported).Nodup := (c.nodup_chainsOf r).filter _
    rw [hnodup.count]
    simp only [List.mem_filter]
  -- Another lookup is of the requested chain, which is supported and timed out.
  have hnot (chainId : Int) (h : ¬ (chainId = c.chainOf r ∧ c.TimesOut r)) :
      again.count chainId = 0 := by
    rcases hagain with ⟨rfl, htimeout, _⟩ | ⟨rfl, _⟩
    · have hne : c.chainOf r ≠ chainId := fun heq => h ⟨heq.symm, htimeout⟩
      simp [hne]
    · rfl
  refine ⟨fun chainId hmem hsupported hin => ?_, fun htimeout hnames => ?_,
    fun chainId hsupported => ?_, fun chainId htarget hne => ?_⟩
  · -- A target other than the requested one is looked up by its visit alone.
    have h := hlooks chainId
    rwa [List.count_append, hcount, hnot chainId hin,
      if_pos ⟨(c.mem_chainsOf r chainId).mpr hmem, hsupported⟩] at h
  · -- The requested chain is looked up by its visit, and once more if that was out of time.
    have h := hlooks (c.chainOf r)
    rcases hagain with ⟨rfl, _⟩ | ⟨_, hagain⟩
    · rwa [List.count_append, hcount, List.count_singleton_self,
        if_pos ⟨(c.mem_chainsOf r _).mpr (.inr rfl), htimeout.2.1⟩] at h
    · exact absurd ⟨htimeout, hnames⟩ hagain
  · -- A chain without support is not looked up at all.
    have h := hlooks chainId
    rwa [List.count_append, hcount, if_neg (by simp [hsupported]), hnot chainId ?_] at h
    rintro ⟨rfl, htimeout⟩
    rw [htimeout.2.1] at hsupported
    cases hsupported
  · -- Nor is a chain that is no target.
    have h := hlooks chainId
    rwa [List.count_append, hcount, if_neg ?_, hnot chainId fun hin => hne hin.1] at h
    rintro ⟨hmem, _⟩
    exact ((c.mem_chainsOf r chainId).mp hmem).elim htarget hne

end Scene

/-! ## The two views of the requested chain -/

/-- A placeholder of `analyze` tells why there is no analysis. -/
theorem Analyzer.error_of_analyze (a : Analyzer) (address : Option String) (chainId : Int)
    (x : Analysis) (f : Failure) (h : (a.analyze address chainId).value = .ok (.failed x f)) :
    x.error = some f.message := by
  rcases a.analyze_cases address chainId _ h with
    ⟨text, f', warnings, advice, ho⟩ | ⟨check, _, _, _, _, warnings, ho⟩
  · obtain ⟨rfl, rfl⟩ := Outcome.failed.inj ho
    rfl
  · have hfailed := congrArg Outcome.isFailed ho
    rw [Analyzer.isFailed_outcomeOf] at hfailed
    cases hfailed

/-- The views of an answer on a chain agree: its survey has one record of the chain, which holds the
analysis of the answer if the token is found, and otherwise tells the error of that analysis. -/
def Verification.ViewsAgree (a : Verification) (chainId : Int) : Prop :=
  ∃ x survey record, a.analysis = some x ∧ a.survey = some survey ∧
    (survey.records.filter fun r => r.chainId = chainId) = [record] ∧
    if record.isFound then record.analysis = some x
    else record.analysis = none ∧ record.error = x.error

namespace Scene

variable (c : Scene) {r : Request} {o : Outcome}

/-- The record of `visitOn` where the visit came to an outcome. -/
private theorem record_visitOn {address : String} {chainId : Int}
    (hvisit : (c.surveyor.visitOn address chainId).2 = some o) :
    if (c.surveyor.visitOn address chainId).1.isFound then
      (c.surveyor.visitOn address chainId).1.analysis = some o.analysis
    else (c.surveyor.visitOn address chainId).1.analysis = none ∧
      (c.surveyor.visitOn address chainId).1.error = o.analysis.error := by
  obtain ⟨hsupported, hreached⟩ := (Surveyor.outcome_visitOn_iff _ _ _ _).mp hvisit
  have hrecord : (c.surveyor.visitOn address chainId).1 =
      .ofOutcome chainId (Text.lower address) o := by
    rw [Surveyor.visitOn, if_pos hsupported, hreached]
    rfl
  rw [hrecord]
  -- Only the record of a placeholder has no analysis, but the error.
  cases o with
  | complete x => exact rfl
  | degraded x reason => exact rfl
  | failed x f =>
    have herror := c.analyzer.error_of_analyze _ _ x f (c.reached_eq_some _ _ _ hreached)
    exact ⟨rfl, herror.symm⟩

/-- If the requested chain is a target and its visit comes to an outcome, `work` that comes to an
answer has the outcome for its analysis. -/
theorem viewsAgree_of_work (hcross : r.crossChain = true)
    (htarget : c.chainOf r ∈ Surveyor.targets r.chainIds)
    (hvisit : (c.surveyor.visitOn r.addressText (c.chainOf r)).2 = some o)
    (hslots : c.surveyor.HasSlots (Surveyor.targets r.chainIds))
    (hnames : c.surveyor.ReadsNames r.addressText r.chainIds) (id : String) :
    ∃ a, (c.verifier.work id r).value = .ok (a, o) ∧ a.ViewsAgree (c.chainOf r) := by
  have htargets := Surveyor.targets_targets r.chainIds
  have hshows : c.surveyor.Shows r.addressText (some (Surveyor.targets r.chainIds)) (c.chainOf r)
      (c.surveyor.visitOn r.addressText (c.chainOf r)) :=
    (Surveyor.shows_visitOn_iff _ (by rwa [htargets]) (by rwa [htargets])).mpr
      (by rwa [Surveyor.ReadsNames, htargets])
  -- The survey shows the visit, so its outcome is found when the survey is over.
  obtain ⟨survey, outcomes, hrun, hrecords, hlookup⟩ := hshows
  rw [Surveyor.chainId_visitOn] at hrecords hlookup
  refine ⟨c.verifier.answer id r o (some survey), ?_, o.analysis, survey, _, rfl, rfl, hrecords,
    c.record_visitOn hvisit⟩
  rw [work_of_crossChain id hcross, analyzeWithSurvey_among htarget, Timed.value_map,
    Timed.value_bind, hrun, afterSurvey, hlookup, hvisit]
  rfl

/-! ## Requests -/

/-- A request for a survey that is not remembered makes no call if its text is no address. If the
text is canonical, each supported chain that the request is about is looked up once, and only the
requested chain once more, where its visit `TimesOut`. If that visit comes to an outcome, every
answer of `verify` shows it in both of its views. A name that cannot be read stands in the way of
the second lookup and of the survey. -/
theorem looks_up_once_per_chain (r : Request) (s : Session) (hcross : r.crossChain = true)
    (hmiss : (c.verifier.lookUp r s).1 = none) (hcall : Timed.IsOpen c.analyzer.callLimit)
    (hchain : Timed.IsOpen (c.chainLimit.map Number.toBinary64))
    (hslots : c.surveyor.HasSlots (Surveyor.targets r.chainIds)) :
    (Address.isAddress r.addressText = false → (c.verifier.verify r s).1.calls = []) ∧
      (Address.IsCanonical r.addressText →
        c.LooksUpOncePerChain r (c.verifier.verify r s).1) ∧
      ∀ o, c.chainOf r ∈ Surveyor.targets r.chainIds →
        (c.surveyor.visitOn r.addressText (c.chainOf r)).2 = some o →
        c.surveyor.ReadsNames r.addressText r.chainIds →
          (s.CanStore → ∃ a, (c.verifier.verify r s).1.value = .ok a) ∧
            ∀ a, (c.verifier.verify r s).1.value = .ok a → a.ViewsAgree (c.chainOf r) := by
  obtain ⟨id, answer, hverify⟩ := c.verifier.verify_eq_map_work r s hmiss
  refine ⟨fun hno => ?_, fun haddress => ?_, fun o htarget hvisit hnames =>
    ⟨c.verifier.verify_of_canStore r s, fun a ha => ?_⟩⟩
  · -- What is no address ends before anything is asked.
    have hasked := asked_work_of_not_isAddress (c := c) id hno
    rw [hverify]
    exact List.map_eq_nil_iff.mp hasked
  · rw [hverify]
    exact (c.looksUpOncePerChain_work hcall hchain hslots haddress id hcross).map _
  · -- The answer has the outcome of the visit, and the survey has its analysis.
    obtain ⟨id', s', _, _, hvalue, _⟩ := c.verifier.verify_of_not_found r s hmiss
    obtain ⟨b, hwork, hagree⟩ := c.viewsAgree_of_work hcross htarget hvisit hslots hnames id'
    rw [hvalue, hwork] at ha
    rwa [((c.verifier.complete_eq_ok_iff r b a o s').mp ha).1]

/-- The plain scene, but for one chain that sends a number for the name of the contract. -/
abbrev misnamed : Scene :=
  { plain (.ok []) 0 with analyzer := (plain (.ok []) 0).analyzer.asking .misnamed }

/-- The plain scene, but code takes two seconds to come and a chain of a survey is given one. -/
def tardy : Scene :=
  { plain (.ok []) 0 with
    analyzer := (plain (.ok []) 0).analyzer.asking { Sources.plain (.ok []) with
      code _ _ := { delay := 2000, answer := .ok "0x6080" } }
    chainLimit := some (.real (.finite ⟨false, twoTo 52, 1022, by decide⟩)) }

private theorem isCanonical_plainAddress : Address.IsCanonical Sources.plainAddress :=
  ⟨List.replicate 40 '1', by decide⟩

/-- The analysis in the `tardy` scene waits for the code. -/
theorem le_time_analyze_tardy :
    2000 ≤ (tardy.analyzer.analyze (some Sources.plainAddress) 1).finish.time := by
  refine Rat.le_trans ?_ (tardy.analyzer.time_fetch_le_analyze (some Sources.plainAddress) 1
    ((tardy.analyzer.startsOn_iff_of_isCanonical (some Sources.plainAddress) 1
      isCanonical_plainAddress).mpr (by decide)))
  show 2000 ≤ (Timed.joinAt [(Instant.rounds 1).after (.ofWait 2000),
    (Instant.rounds 1).after (.ofWait 0)]).time
  decide +kernel

/-- The visit of the first chain comes too late in the `tardy` scene. -/
private theorem reached_tardy : tardy.surveyor.reached Sources.plainAddress 1 = none := by
  -- The limit is the double of a second, and the analysis takes two.
  have hlimit : 1000 * Binary64.Finite.toRat ⟨false, twoTo 52, 1022, by decide⟩ < 2000 := by
    decide +kernel
  have hlonger := Std.lt_of_lt_of_le hlimit le_time_analyze_tardy
  exact Timed.value_within_of_lt _ none _ hlonger

/-- The only visit in the `tardy` scene finds nothing, so there is no name to read. -/
private theorem readsNames_tardy :
    tardy.surveyor.ReadsNames Sources.plainAddress (some [1]) := by
  rw [Surveyor.ReadsNames, Surveyor.value_visits _ _ _ (.inl (show (0 : Int) < 8 by decide))]
  intro v hv a ha
  obtain ⟨id, hid, rfl⟩ := List.mem_map.mp hv
  obtain rfl : id = 1 := List.mem_singleton.mp hid
  obtain ⟨o, ho, _⟩ := (Surveyor.analysis_visitOn_iff _ _ _ _).mp ha
  cases reached_tardy.symm.trans ((Surveyor.outcome_visitOn_iff _ _ _ _).mp ho).2

/-- `verify` of a request for the requested chain and two others, one of which is not supported,
looks up the two that are and shows the requested one in both views. If that does not answer in
time, it is looked up twice. -/
theorem requested_chain_is_looked_up :
    (let run := (misnamed.verifier.verify (.onChains [999, 137, 1]) {}).1
     run.LooksUp 1 1 ∧ run.LooksUp 137 1 ∧ run.LooksUp 999 0 ∧ run.LooksUp 56 0 ∧
       ∃ a, run.value = .ok a ∧ a.ViewsAgree 1) ∧
      (tardy.verifier.verify (.onChains [1]) {}).1.LooksUp 1 2 := by
  constructor
  · have hnames : misnamed.surveyor.ReadsNames Sources.plainAddress (some [999, 137, 1]) :=
      (Circumstances.readsNames_misnamed_iff [999, 137, 1]).mpr (by decide)
    obtain ⟨o, ho⟩ := misnamed.analyzer.analyze_isOk_of_isCanonical (some Sources.plainAddress) 1
      isCanonical_plainAddress
    -- Without a limit every visit comes to what the analysis of its chain comes to.
    have hvisit : (misnamed.surveyor.visitOn Sources.plainAddress 1).2 = some o :=
      (Surveyor.outcome_visitOn_iff _ _ _ _).mpr ⟨by decide, congrArg some ho⟩
    -- A visit that came to an outcome has not timed out.
    have hin : ¬ misnamed.TimesOut (.onChains [999, 137, 1]) := by
      rintro ⟨_, _, hreached⟩
      cases ((Surveyor.outcome_visitOn_iff _ _ _ _).mp hvisit).2.symm.trans hreached
    obtain ⟨_, hlooks, hviews⟩ := looks_up_once_per_chain misnamed (.onChains [999, 137, 1]) {}
      rfl rfl (fun x h => by cases h) (fun x h => by cases h)
      (.inl (show (0 : Int) < 8 by decide))
    obtain ⟨honce, _, hunsupported, hothers⟩ := hlooks isCanonical_plainAddress
    obtain ⟨hanswered, hagree⟩ := hviews o (by decide) hvisit hnames
    obtain ⟨a, ha⟩ := hanswered Session.canStore_default
    exact ⟨honce 1 (by decide) (by decide) fun h => hin h.2,
      honce 137 (by decide) (by decide) fun h => hin h.2, hunsupported 999 (by decide),
      hothers 56 (by decide) (by decide), a, ha, hagree a ha⟩
  · -- On the slow chain the limit runs out, and the chain is analyzed once more.
    obtain ⟨_, hlooks, _⟩ := looks_up_once_per_chain tardy (.onChains [1]) {} rfl rfl
      (fun x h => by cases h) (fun x h => by rw [← Option.some.inj h]; decide +kernel)
      (.inl (show (0 : Int) < 8 by decide))
    exact (hlooks isCanonical_plainAddress).twice ⟨by decide, by decide, reached_tardy⟩
      readsNames_tardy

/-- With a negative number of slots there is no survey, and `verify` does not look up a supported
chain that is asked for, although there are no limits and nothing is remembered. -/
theorem negative_slots_look_nothing_up :
    let c := { plain (.ok []) 0 with slots := -1 }
    let r := Request.onChains [1]
    r.crossChain = true ∧ (c.verifier.lookUp r {}).1 = none ∧
      c.analyzer.callLimit = none ∧ c.chainLimit = none ∧ Address.IsCanonical r.addressText ∧
      1 ∈ Surveyor.targets r.chainIds ∧ Chain.isSupported 1 = true ∧
      ¬ c.TimesOut r ∧ (c.verifier.verify r {}).1.calls = [] ∧
      ¬ (c.verifier.verify r {}).1.LooksUp 1 1 := by
  intro c r
  -- With no slot to take, the survey fails before it asks.
  have hcalls : (c.verifier.verify r {}).1.calls = [] := rfl
  refine ⟨rfl, rfl, rfl, rfl, isCanonical_plainAddress, by decide, by decide, ?_, hcalls,
    fun h => ?_⟩
  · rintro ⟨_, _, hreached⟩
    cases hreached
  · have hcode := h.code
    rw [Timed.asked, hcalls] at hcode
    cases hcode

end Scene

end TokenRisk
