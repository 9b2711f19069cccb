import TokenRisk.Proofs.Isolation
import TokenRisk.Proofs.Keys

/-!
# What a survey says of itself

A survey counts its records in two places: in its own fields, and once more for the patterns that
point to a bridged token. This file shows that the counts agree with the records and with each
other, whatever the chains came to and however long they waited.

## Key results

- `isSound_visitOn`: a visit finds an analysis, or says why there is none
- `deployed_mem_iff`, `highRisk_mem_iff`, `varies_mem_iff`: which of the patterns that speak of
  counts are there, and with which numbers
- `survey_is_consistent`: a run comes to a consistent survey, if it reads all names
-/

namespace TokenRisk

/-- `toString` of a text is the text. -/
private theorem toString_text (s : String) : toString s = s := rfl

/-! ## Records -/

/-- A record `isFound` and holds an analysis and no error, or it is not and holds an error that says
something. -/
def ChainRecord.IsSound (r : ChainRecord) : Prop :=
  (r.isFound = true ∧ r.analysis.isSome = true ∧ r.error = none) ∨
    (r.isFound = false ∧ r.analysis = none ∧ ∃ error, r.error = some error ∧ error ≠ "")

/-- The `description` of a failure is never empty. -/
theorem Failure.description_ne_empty (f : Failure) : f.description ≠ "" := by
  have hlabel : f.label ≠ "" := by
    cases f with
    | provider name why => cases why <;> simp [label]
    | fault kind message => cases kind <;> simp [label, FaultKind.label]
    | _ => simp [label]
  rw [description]
  split
  · exact hlabel
  · rename_i hmessage
    simpa using hmessage

/-- A placeholder, as `analyze` makes it, says why there is no analysis. -/
theorem Analyzer.message_ne_empty (a : Analyzer) (address : Option String) (chainId : Int)
    (x : Analysis) (f : Failure) (h : (a.analyze address chainId).value = .ok (.failed x f)) :
    f.message ≠ "" := by
  rcases a.failure_of_analyze address chainId x f h with
    ⟨errors, rfl⟩ | rfl | rfl | hprovider | ⟨g, rfl⟩
  · -- The errors of an invalid address may be empty, but there is a message for that case.
    simp only [Failure.message]
    split
    · simp
    · rename_i hjoined
      simpa using hjoined
  · decide
  · decide
  · cases f with
    | provider name why => simp [Failure.message, toString_text]
    | _ => cases hprovider
  · exact g.description_ne_empty

namespace Surveyor

variable (s : Surveyor)

private theorem timeoutError_ne_empty : s.timeoutError ≠ "" := by
  delta timeoutError
  simp

/-- `visitOn` finds an analysis, or says why there is none, as long as placeholders do. -/
theorem isSound_visitOn (address : String) (chainId : Int)
    (h : ∀ x f, (s.analyze (some address) chainId).value = .ok (.failed x f) → f.message ≠ "") :
    (s.visitOn address chainId).1.IsSound := by
  simp only [visitOn]
  split
  · rcases hreached : s.reached address chainId with _ | (f | o)
    · exact .inr ⟨rfl, rfl, _, rfl, s.timeoutError_ne_empty⟩
    · -- An analysis that breaks off without a message is given one.
      refine .inr ⟨rfl, rfl, _, rfl, ?_⟩
      split
      · decide
      · rename_i hmessage
        simpa using hmessage
    · cases o with
      | complete x => exact .inl ⟨rfl, rfl, rfl⟩
      | degraded x reason => exact .inl ⟨rfl, rfl, rfl⟩
      | failed x f =>
        exact .inr ⟨rfl, rfl, _, rfl, h x f (s.reached_eq_some address chainId _ hreached).1⟩
  · exact .inr ⟨rfl, rfl, _, rfl, by decide⟩

end Surveyor

/-! ## Counts -/

namespace ChainRecord

variable {records : List ChainRecord}

/-- Of sound records there are as many `analyses` as the `foundCount` says. -/
private theorem length_analyses (h : ∀ r ∈ records, r.IsSound) :
    (analyses records).length = foundCount records := by
  rw [analyses, List.length_filterMap_eq_countP, foundCount]
  refine List.countP_congr fun r hr => ?_
  rcases h r hr with ⟨hfound, hanalysis, _⟩ | ⟨hfound, hanalysis, _⟩
  · rw [hfound, hanalysis]
  · rw [hfound, hanalysis, Option.isSome_none]

/-- The `verifiedCount` of sound records is at most their `foundCount`. -/
private theorem verifiedCount_le (h : ∀ r ∈ records, r.IsSound) :
    verifiedCount records ≤ foundCount records := by
  rw [← length_analyses h]
  exact List.countP_le_length

/-- No analysis is in both the `highRiskCount` and the `mediumRiskCount`. -/
private theorem levelCounts_le (h : ∀ r ∈ records, r.IsSound) :
    highRiskCount records + mediumRiskCount records ≤ foundCount records := by
  -- What is not counted as high leaves room for all that is medium.
  rw [← length_analyses h, List.length_eq_countP_add_countP fun a => a.level.isHigh]
  refine Nat.add_le_add_left (List.countP_mono_left fun a _ hmedium => ?_) _
  rw [beq_iff_eq.mp hmedium]
  rfl

end ChainRecord

/-! ## Patterns -/

/-- Texts around `toString` of different numbers are different. -/
private theorem counted_inj (front rest : String) (n : Int) (m : Nat) :
    front ++ toString n ++ rest = front ++ toString m ++ rest ↔ n = m := by
  constructor
  · intro h
    have hlist := congrArg String.toList h
    simp only [String.toList_append, List.append_cancel_right_eq, List.append_cancel_left_eq]
      at hlist
    exact toString_int_inj n m (String.toList_inj.mp hlist)
  · rintro rfl
    rfl

namespace ChainRecord

variable (records : List ChainRecord)

/-- `bridgeIndicators` says on how many chains the token is deployed, if they are several. -/
theorem deployed_mem_iff (n : Int) :
    s!"Token deployed on {n} chains" ∈ bridgeIndicators records ↔
      n = foundCount records ∧ (1 : Int) < foundCount records := by
  have hsame := counted_inj "Token deployed on " " chains" n (foundCount records)
  simp only [bridgeIndicators, List.mem_append, mem_adviceIf, decide_eq_true_eq]
  constructor
  · rintro ((((⟨hfound, htext⟩ | ⟨_, htext⟩) | ⟨_, htext⟩) | ⟨_, htext⟩) | ⟨_, htext⟩)
    · exact ⟨hsame.mp htext, by omega⟩
    -- The other patterns begin with other words.
    all_goals simp [← String.toList_inj, toString_text] at htext
  · rintro ⟨hn, hfound⟩
    exact .inl (.inl (.inl (.inl ⟨by omega, hsame.mpr hn⟩)))

/-- `bridgeIndicators` says on how many chains there is a high risk, if there are any. -/
theorem highRisk_mem_iff (n : Int) :
    s!"High risk on {n} chains" ∈ bridgeIndicators records ↔
      n = highRiskCount records ∧ (0 : Int) < highRiskCount records := by
  have hsame := counted_inj "High risk on " " chains" n (highRiskCount records)
  simp only [bridgeIndicators, List.mem_append, mem_adviceIf, decide_eq_true_eq]
  constructor
  · rintro ((((⟨_, htext⟩ | ⟨hhigh, htext⟩) | ⟨_, htext⟩) | ⟨_, htext⟩) | ⟨_, htext⟩)
    rotate_left
    · exact ⟨hsame.mp htext, by omega⟩
    all_goals simp [← String.toList_inj, toString_text] at htext
  · rintro ⟨hn, hhigh⟩
    exact .inl (.inl (.inl (.inr ⟨by omega, hsame.mpr hn⟩)))

/-- `bridgeIndicators` says that the status varies if some of the analyses have verified source, and
some do not. -/
theorem varies_mem_iff :
    "Verification status varies across chains" ∈ bridgeIndicators records ↔
      (0 : Int) < verifiedCount records ∧
        (verifiedCount records : Int) < foundCount records := by
  simp only [bridgeIndicators, List.mem_append, mem_adviceIf, Bool.and_eq_true, decide_eq_true_eq]
  constructor
  · rintro ((((⟨_, htext⟩ | ⟨_, htext⟩) | ⟨hvaries, -⟩) | ⟨_, htext⟩) | ⟨_, htext⟩)
    rotate_left 2
    · omega
    all_goals simp [← String.toList_inj, toString_text] at htext
  · intro hvaries
    exact .inl (.inl (.inr ⟨by omega, trivial⟩))

end ChainRecord

/-! ## Surveys -/

/-- What `ofReported?` takes a reported name for is what one of the `patterns` stands for. -/
private theorem Wrapped.mem_patterns_of_ofReported {name : Json}
    {found : Option (String × String)} (h : ofReported? name = .ok found) {x : String × String}
    (hx : found = some x) : ∃ p ∈ patterns, p.2 = x := by
  subst hx
  simp only [ofReported?] at h
  split at h
  · cases h
  · split at h
    · obtain ⟨p, hp, rfl⟩ := Option.map_eq_some_iff.mp (Except.ok.inj h)
      exact ⟨p, List.mem_of_find?_eq_some hp, rfl⟩
    · cases h

/-- A token that `ofRecords` comes to is that of a record on which the token is found, and its
wrapper is one of those that there are `patterns` for. -/
theorem Wrapped.mem_ofRecords (records : List ChainRecord) (wrapped : List WrappedToken)
    (h : ofRecords records = .ok wrapped) :
    ∀ w ∈ wrapped, (∃ r ∈ records, r.analysis.isSome = true ∧ r.chainId = w.chainId ∧
      r.tokenAddress = w.address) ∧ ∃ p ∈ patterns, w.wrapperName = p.2.1 := by
  induction records generalizing wrapped with
  | nil =>
    cases h
    simp
  | cons r records ih =>
    -- The first record comes to at most one token, the others to the rest.
    obtain ⟨here, hhere, hmore⟩ := Except.bind_eq_ok_iff.mp h
    obtain ⟨rest, hrest, hwrapped⟩ := Except.bind_eq_ok_iff.mp hmore
    cases hwrapped
    -- The wrapped token is the one of the first record, or comes from the rest.
    intro w hw
    rcases List.mem_append.mp hw with hw | hw
    · simp only [ofRecord?] at hhere
      split at hhere
      · cases hhere
        cases hw
      · rename_i a hanalysis
        obtain ⟨found, hreported, hfound⟩ := Except.map_eq_ok_iff.mp hhere
        rw [← hfound, Option.mem_toList, Option.map_eq_some_iff] at hw
        obtain ⟨x, hx, rfl⟩ := hw
        refine ⟨⟨r, List.mem_cons_self, by rw [hanalysis]; rfl, rfl, rfl⟩, ?_⟩
        obtain ⟨p, hp, hname⟩ := mem_patterns_of_ofReported hreported hx
        exact ⟨p, hp, by rw [hname]⟩
    · obtain ⟨⟨r', hr', hsource⟩, hname⟩ := ih rest hrest w hw
      exact ⟨⟨r', List.mem_cons_of_mem _ hr', hsource⟩, hname⟩

/-- A survey of chains is consistent: it has one record for each chain that was asked for, in the
order in which they were first asked for, each with an analysis or the reason why there is none; and
what it says about its records in two places is the same. -/
structure Survey.IsConsistent (chainIds : Option (List Int)) (s : Survey) : Prop where
  chains : ∀ id, id ∈ s.records.map ChainRecord.chainId ↔ id ∈ chainIds.getD Chain.allIds
  once : (s.records.map ChainRecord.chainId).Nodup
  order : (s.records.map ChainRecord.chainId).Pairwise fun i j =>
    (chainIds.getD Chain.allIds).idxOf i < (chainIds.getD Chain.allIds).idxOf j
  records : ∀ r ∈ s.records, r.IsSound
  found : s.found = s.records.countP ChainRecord.isFound
  verified : s.verified ≤ s.found
  levels : s.highRisk + s.mediumRisk ≤ s.found
  wrapped : ∀ w ∈ s.wrapped, ∃ r ∈ s.records, r.isFound = true ∧ r.chainId = w.chainId ∧
    r.tokenAddress = w.address
  deployed : ∀ n : Int, s!"Token deployed on {n} chains" ∈ s.bridgeIndicators ↔
    n = s.found ∧ 1 < s.found
  highRisk : ∀ n : Int, s!"High risk on {n} chains" ∈ s.bridgeIndicators ↔
    n = s.highRisk ∧ 0 < s.highRisk
  varies : "Verification status varies across chains" ∈ s.bridgeIndicators ↔
    0 < s.verified ∧ s.verified < s.found

/-- Sound records for the `targets` of a survey add up to a consistent one. -/
theorem Survey.isConsistent_ofRecords (now address : String) (baseChainId : Int)
    (chainIds : Option (List Int)) (records : List ChainRecord) (survey : Survey)
    (h : Survey.ofRecords now address baseChainId records = .ok survey)
    (htargets : records.map ChainRecord.chainId = Surveyor.targets chainIds)
    (hsound : ∀ r ∈ records, r.IsSound) : survey.IsConsistent chainIds := by
  obtain ⟨wrapped, hwrapped, hsurvey⟩ := Except.bind_eq_ok_iff.mp h
  -- The counts are bounded by those of the records that have an analysis.
  have hverified := ChainRecord.verifiedCount_le hsound
  have hlevels := ChainRecord.levelCounts_le hsound
  -- The fields of the survey are what the records are counted to.
  cases hsurvey
  rw [Surveyor.targets_eq_distinct] at htargets
  constructor
  case chains =>
    intro id
    rw [htargets, mem_distinct]
  case once =>
    rw [htargets]
    exact nodup_distinct _
  case order =>
    rw [htargets]
    exact pairwise_distinct _
  case records => exact hsound
  case found => rfl
  case verified => exact Int.ofNat_le.mpr hverified
  case levels => exact Int.ofNat_le.mpr hlevels
  case wrapped =>
    -- A wrapped token comes from a record with an analysis, on which the token is found.
    intro w hw
    obtain ⟨⟨r, hr, hanalysis, hrest⟩, _⟩ := Wrapped.mem_ofRecords records wrapped hwrapped w hw
    refine ⟨r, hr, ?_, hrest⟩
    rcases hsound r hr with ⟨hfound, _⟩ | ⟨_, hnone, _⟩
    · exact hfound
    · rw [hnone] at hanalysis
      cases hanalysis
  case deployed => exact ChainRecord.deployed_mem_iff records
  case highRisk => exact ChainRecord.highRisk_mem_iff records
  case varies => exact ChainRecord.varies_mem_iff records

namespace Circumstances

/-- Whatever the chains come to in a `run` with slots, the survey is consistent if there is one; and
there is one as long as each contract that is found has a text for its name, or none. -/
theorem survey_is_consistent (a : Analyzer) (chainLimit : Option Number) (x : Circumstances)
    (address : String) (h : 0 < x.slots) :
    (∀ survey outcomes, ((x.surveyor a chainLimit).run address x.chainIds x.baseChainId).value =
      .ok (survey, outcomes) → survey.IsConsistent x.chainIds) ∧
    ((∃ result, ((x.surveyor a chainLimit).run address x.chainIds x.baseChainId).value =
      .ok result) ↔ (x.surveyor a chainLimit).ReadsNames address x.chainIds) := by
  refine ⟨fun survey outcomes hrun => ?_, Surveyor.run_isOk_iff x.baseChainId (.inl h)⟩
  obtain ⟨_, hsurvey, _⟩ := (x.surveyor a chainLimit).run_eq_ok _ _ _ _ _ hrun
  refine Survey.isConsistent_ofRecords _ _ _ x.chainIds _ survey hsurvey ?_ ?_
  · rw [List.map_map]
    exact (List.map_congr_left fun id _ => Surveyor.chainId_visitOn _ address id).trans
      (List.map_id _)
  · intro r hr
    obtain ⟨id, _, rfl⟩ := List.mem_map.mp hr
    refine Surveyor.isSound_visitOn _ address id fun y f hfailed => ?_
    -- Where the analysis breaks off there is no placeholder, elsewhere it has a message.
    simp only [surveyor, Analyze.breakingOff] at hfailed
    split at hfailed
    · cases hfailed
    · exact Analyzer.message_ne_empty _ _ _ y f hfailed

/-- A chain is asked for twice and is not supported, and the survey that `run` comes to is
consistent. -/
theorem survey_with_repeats_is_consistent : ∃ survey outcomes,
    ((misnamedSurveyor [999, 1, 999]).run Sources.plainAddress (some [999, 1, 999]) 1).value =
      .ok (survey, outcomes) ∧ survey.IsConsistent (some [999, 1, 999]) := by
  obtain ⟨hconsistent, hrun⟩ := survey_is_consistent (Scene.plain (.ok []) 0).analyzer none
    (misnamed [999, 1, 999]) Sources.plainAddress (by decide)
  obtain ⟨⟨survey, outcomes⟩, hvalue⟩ :=
    hrun.mpr ((readsNames_misnamed_iff [999, 1, 999]).mpr (by decide))
  exact ⟨survey, outcomes, hvalue, hconsistent survey outcomes hvalue⟩

end Circumstances

end TokenRisk
