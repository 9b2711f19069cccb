import TokenRisk.ForStd.Except
import TokenRisk.Proofs.Analyzer
import TokenRisk.Proofs.Distinct
import TokenRisk.Survey.Run

/-!
# What a survey comes to

Chains are visited side by side and wait for each other's slots, but what a visit comes to does not
depend on when it starts. So a survey is described chain by chain: `map_stops` gives a stop at each
target, and `value_run` the summary and the outcomes as those of `visitOn`, one for each target.
-/

namespace TokenRisk

/-! ## Targets -/

/-- Without a list of chains all supported ones are the `targets`. -/
theorem Surveyor.targets_eq_distinct (chainIds : Option (List Int)) :
    targets chainIds = Text.distinct (chainIds.getD Chain.allIds) := by
  cases chainIds with
  | none => decide
  | some ids => rfl

/-- No chain is twice among the `targets`. -/
theorem Surveyor.nodup_targets (chainIds : Option (List Int)) : (targets chainIds).Nodup := by
  rw [targets_eq_distinct]
  exact nodup_distinct _

/-- Resolved `targets` are targets for themselves. -/
theorem Surveyor.targets_targets (chainIds : Option (List Int)) :
    targets (some (targets chainIds)) = targets chainIds :=
  distinct_of_nodup _ (nodup_targets chainIds)

namespace Slots

/-- `starts` has a start for every piece of work as long as there is a slot. -/
private theorem length_starts (free durations : List Instant) (h : free ≠ []) :
    (starts free durations).length = durations.length := by
  induction durations generalizing free with
  | nil => rfl
  | cons duration rest ih =>
    cases free with
    | nil => exact absurd rfl h
    | cons start free =>
      have hne : insertFree (reopened (start.after duration)) free ≠ [] := by
        intro hnil
        have hlen := length_insertFree (reopened (start.after duration)) free
        rw [hnil] at hlen
        simp at hlen
      simp only [starts, List.length_cons, ih _ hne]

/-- With a slot, `schedule` starts every piece of work. -/
theorem length_schedule (slots : Nat) (durations : List Instant) (h : 0 < slots) :
    (schedule slots durations).length = durations.length := by
  cases durations with
  | nil => simp [schedule, starts]
  | cons duration rest =>
    refine length_starts _ _ fun hnil => ?_
    rw [List.replicate_eq_nil_iff] at hnil
    simp only [List.length_cons] at hnil
    omega

end Slots

namespace ChainRecord

@[simp] theorem chainId_ofOutcome (chainId : Int) (address : String) (o : Outcome) :
    (ofOutcome chainId address o).chainId = chainId := by
  cases o <;> rfl

/-- `ofOutcome` holds the analysis, unless that is a placeholder. -/
theorem analysis_ofOutcome (chainId : Int) (address : String) (o : Outcome) :
    (ofOutcome chainId address o).analysis = if o.isFailed then none else some o.analysis := by
  cases o <;> rfl

/-- `ofOutcome` says that the token is found where its analysis is no placeholder. -/
theorem isFound_ofOutcome (chainId : Int) (address : String) (o : Outcome) :
    (ofOutcome chainId address o).isFound = !o.isFailed := by
  cases o <;> rfl

/-- `verifiedCount` is positive if some record has an analysis with verified source. -/
theorem verifiedCount_pos_iff (records : List ChainRecord) :
    0 < verifiedCount records ↔
      ∃ r ∈ records, ∃ a, r.analysis = some a ∧ a.signals.findings.unverifiedCode = false := by
  simp only [verifiedCount, analyses, List.countP_pos_iff, List.mem_filterMap,
    Bool.not_eq_eq_eq_not, Bool.not_true]
  constructor
  · rintro ⟨a, ⟨r, hr, ha⟩, hverified⟩
    exact ⟨r, hr, a, ha, hverified⟩
  · rintro ⟨r, hr, a, ha, hverified⟩
    exact ⟨a, ⟨r, hr, ha⟩, hverified⟩

/-- `highRiskCount` is positive if some record has an analysis at a high level. -/
theorem highRiskCount_pos_iff (records : List ChainRecord) :
    0 < highRiskCount records ↔
      ∃ r ∈ records, ∃ a, r.analysis = some a ∧ a.level.isHigh = true := by
  simp only [highRiskCount, analyses, List.countP_pos_iff, List.mem_filterMap]
  constructor
  · rintro ⟨a, ⟨r, hr, ha⟩, hhigh⟩
    exact ⟨r, hr, a, ha, hhigh⟩
  · rintro ⟨r, hr, a, ha, hhigh⟩
    exact ⟨a, ⟨r, hr, ha⟩, hhigh⟩

/-- `foundCount` is positive if on some record the token is found. -/
theorem foundCount_pos_iff (records : List ChainRecord) :
    0 < foundCount records ↔ ∃ r ∈ records, r.isFound = true := by
  simp only [foundCount, List.countP_pos_iff]

end ChainRecord

/-- What `ofRecords` adds up to. -/
theorem Survey.ofRecords_eq_ok (now address : String) (baseChainId : Int)
    (records : List ChainRecord) (survey : Survey)
    (h : Survey.ofRecords now address baseChainId records = .ok survey) :
    survey.records = records ∧ survey.found = ChainRecord.foundCount records ∧
      survey.verified = ChainRecord.verifiedCount records ∧
      survey.highRisk = ChainRecord.highRiskCount records := by
  obtain ⟨wrapped, _, hsurvey⟩ := Except.bind_eq_ok_iff.mp h
  cases hsurvey
  exact ⟨rfl, rfl, rfl, rfl⟩

/-- A reported name that is a text, or nothing. -/
def Wrapped.IsReadable (name : Json) : Prop :=
  ∃ found, ofReported? name = .ok found

private theorem Wrapped.ofRecords_isOk_iff (records : List ChainRecord) :
    (∃ wrapped, ofRecords records = .ok wrapped) ↔
      ∀ r ∈ records, ∀ a, r.analysis = some a → IsReadable a.contractName := by
  induction records with
  | nil => simp [ofRecords]
  | cons r records ih =>
    have hfirst : (∃ here, ofRecord? r = .ok here) ↔
        ∀ a, r.analysis = some a → IsReadable a.contractName := by
      -- Without an analysis there is no name to read.
      cases hanalysis : r.analysis with
      | none => simp [ofRecord?, hanalysis]
      | some a =>
        simp only [ofRecord?, hanalysis, Except.map_eq_ok_iff, IsReadable, Option.some.injEq,
          forall_eq']
        constructor
        · rintro ⟨_, found, hfound, _⟩
          exact ⟨found, hfound⟩
        · rintro ⟨found, hfound⟩
          exact ⟨_, found, hfound, rfl⟩
    -- All records can be read exactly if the first one and the others can.
    rw [List.forall_mem_cons, ← hfirst, ← ih]
    simp only [ofRecords, Except.bind_eq_ok_iff]
    constructor
    · rintro ⟨_, here, hhere, rest, hrest, _⟩
      exact ⟨⟨here, hhere⟩, rest, hrest⟩
    · rintro ⟨⟨here, hhere⟩, rest, hrest⟩
      exact ⟨_, here, hhere, rest, hrest, rfl⟩

/-- `ofRecords` comes to a survey exactly when all names on the records are readable. -/
theorem Survey.ofRecords_isOk_iff (now address : String) (baseChainId : Int)
    (records : List ChainRecord) :
    (∃ survey, Survey.ofRecords now address baseChainId records = .ok survey) ↔
      ∀ r ∈ records, ∀ a, r.analysis = some a → Wrapped.IsReadable a.contractName := by
  rw [← Wrapped.ofRecords_isOk_iff]
  simp only [Survey.ofRecords, Except.bind_eq_ok_iff]
  constructor
  · rintro ⟨_, wrapped, hwrapped, _⟩
    exact ⟨wrapped, hwrapped⟩
  · rintro ⟨wrapped, hwrapped⟩
    exact ⟨_, wrapped, hwrapped, rfl⟩

namespace Surveyor

variable (s : Surveyor)

/-! ## Visits -/

/-- What the analysis of a chain came to, if it did within the limit. -/
def reached (address : String) (chainId : Int) : Option (Except Failure Outcome) :=
  (((s.analyze (some address) chainId).map some).within (s.chainLimit.map Number.toBinary64)
    none).value

/-- What the visit of a chain comes to. -/
def visitOn (address : String) (chainId : Int) : Visit :=
  if Chain.isSupported chainId then s.visitOf address chainId (s.reached address chainId)
  else visitUnsupported address chainId

/-- A chain that is `reached` in time is analyzed as it would be alone, with all questions. -/
theorem reached_eq_some (address : String) (chainId : Int) (x : Except Failure Outcome)
    (h : s.reached address chainId = some x) :
    (s.analyze (some address) chainId).value = x ∧
      (s.visit address chainId).asked = (s.analyze (some address) chainId).asked := by
  simp only [reached] at h
  cases Timed.within_cases (s.chainLimit.map Number.toBinary64) none
      ((s.analyze (some address) chainId).map some) with
  | inl hexpired => rw [hexpired] at h; cases h
  | inr hkept =>
    rw [hkept.1, Timed.value_map] at h
    exact ⟨Option.some.inj h, by rw [visit, Timed.asked_map, hkept.2, Timed.asked_map]⟩

@[simp] theorem chainId_visitOn (address : String) (chainId : Int) :
    (s.visitOn address chainId).1.chainId = chainId := by
  simp only [visitOn]
  split
  · cases s.reached address chainId with
    | none => rfl
    | some x =>
      cases x with
      | error f => rfl
      | ok o => exact ChainRecord.chainId_ofOutcome chainId _ o
  · rfl

/-- The records of `visitOn` are of the chains that are visited. -/
theorem map_chainId_visitOn (address : String) (ids : List Int) :
    (ids.map fun id => (s.visitOn address id).1).map ChainRecord.chainId = ids := by
  rw [List.map_map]
  exact (List.map_congr_left fun id _ => s.chainId_visitOn address id).trans (List.map_id _)

/-- `visitOn` has an outcome exactly on a supported chain whose analysis came to it in time. -/
theorem outcome_visitOn_iff (address : String) (chainId : Int) (o : Outcome) :
    (s.visitOn address chainId).2 = some o ↔
      Chain.isSupported chainId = true ∧ s.reached address chainId = some (.ok o) := by
  simp only [visitOn]
  split
  · rename_i hsupported
    rcases hreached : s.reached address chainId with _ | (f | o') <;>
      simp [visitOf, hsupported]
  · rename_i hsupported
    simp [visitUnsupported, hsupported]

/-- `visitOn` finds an analysis exactly where its outcome is no placeholder. -/
theorem analysis_visitOn_iff (address : String) (chainId : Int) (analysis : Analysis) :
    (s.visitOn address chainId).1.analysis = some analysis ↔
      ∃ o, (s.visitOn address chainId).2 = some o ∧ o.isFailed = false ∧
        o.analysis = analysis := by
  simp only [visitOn]
  split
  · rcases hreached : s.reached address chainId with _ | (f | o) <;>
      simp [visitOf, ChainRecord.missing, ChainRecord.analysis_ofOutcome]
  · simp [visitUnsupported, ChainRecord.missing]

/-- A token is found exactly where `visitOn` finds an analysis. -/
theorem isFound_visitOn (address : String) (chainId : Int) :
    (s.visitOn address chainId).1.isFound = (s.visitOn address chainId).1.analysis.isSome := by
  simp only [visitOn]
  split
  · rcases hreached : s.reached address chainId with _ | (f | o)
    · rfl
    · rfl
    · simp only [visitOf, ChainRecord.isFound_ofOutcome, ChainRecord.analysis_ofOutcome]
      cases o.isFailed <;> rfl
  · rfl

/-! ## Runs -/

/-- There is a slot, or no chain needs one. -/
def HasSlots (targets : List Int) : Prop :=
  0 < s.slots ∨ s.slots = 0 ∧ targets.any Chain.isSupported = false

/-- Each of `stopsFrom` is at one of the targets. -/
private theorem mem_stopsFrom (address : String) (starts : List Instant) (targets : List Int)
    (v : Stop) (h : v ∈ s.stopsFrom address starts targets) :
    ∃ id ∈ targets, ∃ start, v = s.stopAt address id start := by
  induction targets generalizing starts with
  | nil => cases h
  | cons id targets ih =>
    have hlater (starts : List Instant) (h : v ∈ s.stopsFrom address starts targets) :
        ∃ id' ∈ id :: targets, ∃ start, v = s.stopAt address id' start := by
      obtain ⟨id', hid', hv⟩ := ih starts h
      exact ⟨id', List.mem_cons_of_mem _ hid', hv⟩
    -- A supported chain takes the first start; without one it has no stop.
    simp only [stopsFrom] at h
    split at h
    · split at h
      · exact hlater _ h
      · rcases List.mem_cons.mp h with rfl | h
        · exact ⟨id, List.mem_cons_self, _, rfl⟩
        · exact hlater _ h
    · rcases List.mem_cons.mp h with rfl | h
      · exact ⟨id, List.mem_cons_self, _, rfl⟩
      · exact hlater _ h

theorem mem_stops (address : String) (targets : List Int) (v : Stop)
    (h : v ∈ s.stops address targets) :
    ∃ id ∈ targets, ∃ start, v = s.stopAt address id start :=
  s.mem_stopsFrom address _ targets v h

/-- With as many starts as supported targets, `stopsFrom` has a stop at each target, in order. -/
private theorem map_stopsFrom {β : Type} (g : Stop → β) (f : Int → β) (address : String)
    (hg : ∀ id start, g (s.stopAt address id start) = f id) (starts : List Instant)
    (targets : List Int) (hlength : starts.length = (targets.filter Chain.isSupported).length) :
    (s.stopsFrom address starts targets).map g = targets.map f := by
  induction targets generalizing starts with
  | nil => rfl
  | cons id targets ih =>
    cases hsupported : Chain.isSupported id with
    | true =>
      -- A supported chain takes the first start, and there is one for each.
      rw [List.filter_cons_of_pos hsupported] at hlength
      cases starts with
      | nil => simp at hlength
      | cons start starts =>
        simp only [stopsFrom, hsupported, ↓reduceIte, List.map_cons, hg,
          ih starts (by simpa using hlength)]
    | false =>
      -- Any other chain takes none.
      rw [List.filter_cons_of_neg (by simp [hsupported])] at hlength
      simp only [stopsFrom, hsupported, Bool.false_eq_true, ↓reduceIte, List.map_cons, hg,
        ih starts hlength]

/-- `stops` has a stop at each target, in order, and what does not depend on its start is known. -/
theorem map_stops {β : Type} (g : Stop → β) (f : Int → β) (address : String)
    (hg : ∀ id start, g (s.stopAt address id start) = f id) (targets : List Int)
    (h : s.HasSlots targets) : (s.stops address targets).map g = targets.map f := by
  apply s.map_stopsFrom g f address hg
  cases h with
  | inl hpos => rw [Slots.length_schedule _ _ (show 0 < s.slots.toNat by omega), List.length_map]
  | inr hnone =>
    have hempty : targets.filter Chain.isSupported = [] := by
      simpa [List.filter_eq_nil_iff, List.any_eq_false] using hnone.2
    simp [hempty, Slots.schedule, Slots.starts]

/-- After its wait a stop of `stopAt` on a supported chain is a visit, and any other one has its
record. -/
theorem run_stopAt (address : String) (chainId : Int) (start : Instant) :
    (s.stopAt address chainId start).run = (Timed.wait start).bind fun _ =>
      if Chain.isSupported chainId then s.visit address chainId
      else pure (visitUnsupported address chainId) :=
  rfl

/-- Whenever the `visits` start, each comes to what `visitOn` comes to. -/
theorem value_visits (address : String) (targets : List Int) (h : s.HasSlots targets) :
    (s.visits address targets).map Timed.value = targets.map (s.visitOn address) := by
  rw [visits, List.map_map]
  apply s.map_stops _ _ address _ targets h
  intro id start
  rw [Function.comp_apply, run_stopAt, Timed.value_bind, visitOn]
  split <;> rfl

/-- Whenever the `visits` start, they ask what the visits of supported chains ask. -/
theorem asked_visits (address : String) (targets : List Int) (h : s.HasSlots targets) :
    (s.visits address targets).map Timed.asked = targets.map fun id =>
      if Chain.isSupported id then (s.visit address id).asked else [] := by
  rw [visits, List.map_map]
  apply s.map_stops _ _ address _ targets h
  intro id start
  rw [Function.comp_apply, run_stopAt, Timed.asked_bind, Timed.asked_wait, List.nil_append]
  split <;> rfl

/-- The outcomes of the visits that came to one, by chain. -/
def outcomesOn (address : String) (targets : List Int) : List (Int × Outcome) :=
  (targets.map (s.visitOn address)).filterMap fun v => v.2.map fun outcome => (v.1.chainId, outcome)

/-- The outcome of a chain in `outcomesOn` is that of its visit. -/
theorem lookup_outcomesOn (address : String) (targets : List Int) (chainId : Int) :
    (s.outcomesOn address targets).lookup chainId =
      if chainId ∈ targets then (s.visitOn address chainId).2 else none := by
  simp only [outcomesOn]
  induction targets with
  | nil => rfl
  | cons id targets ih =>
    -- The outcome of a visit is put under the chain that is visited.
    rw [List.map_cons, List.filterMap_cons, chainId_visitOn]
    cases hvisit : (s.visitOn address id).2 with
    | none =>
      simp only [Option.map_none, ih, List.mem_cons]
      by_cases hid : chainId = id
      · subst hid; simp [hvisit]
      · simp [hid]
    | some o =>
      simp only [Option.map_some, List.lookup_cons, ih, List.mem_cons]
      by_cases hid : chainId = id
      · subst hid; simp [hvisit]
      · rw [beq_false_of_ne hid]; simp [hid]

/-- `run` with slots makes all visits side by side and adds up what they come to. -/
theorem run_of_hasSlots (address : String) (chainIds : Option (List Int)) (baseChainId : Int)
    (h : s.HasSlots (targets chainIds)) :
    s.run address chainIds baseChainId =
      (Timed.all (s.visits address (targets chainIds))).map fun visits => do
        let survey ← Survey.ofRecords s.now (Text.lower address) baseChainId (visits.map (·.1))
        return (survey,
          visits.filterMap fun v => v.2.map fun outcome => (v.1.chainId, outcome)) := by
  have hslots : ¬ s.slots < 0 ∧ ¬ (s.slots = 0 ∧ (targets chainIds).any Chain.isSupported) := by
    cases h with
    | inl hpos => omega
    | inr hnone => exact ⟨by omega, by simp [hnone.2]⟩
  simp only [run, if_neg hslots.1, if_neg hslots.2]

/-- The survey and the outcomes of `run` with slots, chain by chain. -/
theorem value_run (address : String) (chainIds : Option (List Int)) (baseChainId : Int)
    (h : s.HasSlots (targets chainIds)) :
    (s.run address chainIds baseChainId).value =
      (Survey.ofRecords s.now (Text.lower address) baseChainId
        ((targets chainIds).map fun id => (s.visitOn address id).1)).map
        fun survey => (survey, s.outcomesOn address (targets chainIds)) := by
  simp only [s.run_of_hasSlots address chainIds baseChainId h, Timed.value_map, Timed.value_all,
    s.value_visits address _ h, List.map_map, outcomesOn]
  rfl

/-- `run` without slots fails at once. -/
theorem run_of_not_hasSlots (address : String) (chainIds : Option (List Int))
    (baseChainId : Int) (h : ¬ s.HasSlots (targets chainIds)) :
    ∃ f, s.run address chainIds baseChainId = pure (.error f) := by
  simp only [run]
  split
  · exact ⟨_, rfl⟩
  · rename_i hneg
    split
    · exact ⟨_, rfl⟩
    · rename_i hzero
      refine absurd ?_ h
      by_cases hslots : s.slots = 0
      · exact .inr ⟨hslots, by simpa [hslots] using hzero⟩
      · exact .inl (by omega)

/-- What a `run` that came to a survey came to. -/
theorem run_eq_ok (address : String) (chainIds : Option (List Int)) (baseChainId : Int)
    (survey : Survey) (outcomes : List (Int × Outcome))
    (h : (s.run address chainIds baseChainId).value = .ok (survey, outcomes)) :
    s.HasSlots (targets chainIds) ∧
      Survey.ofRecords s.now (Text.lower address) baseChainId
        ((targets chainIds).map fun id => (s.visitOn address id).1) = .ok survey ∧
      outcomes = s.outcomesOn address (targets chainIds) := by
  by_cases hslots : s.HasSlots (targets chainIds)
  · rw [s.value_run address chainIds baseChainId hslots] at h
    obtain ⟨survey', hsurvey, hpair⟩ := Except.map_eq_ok_iff.mp h
    cases hpair
    exact ⟨hslots, hsurvey, rfl⟩
  · -- Without slots the run fails, and comes to no survey.
    obtain ⟨f, hf⟩ := s.run_of_not_hasSlots address chainIds baseChainId hslots
    rw [hf] at h
    cases h

/-- `run` asks what the analysis of a chain asks that is `reached` in time. -/
theorem asked_run (address : String) (chainIds : Option (List Int)) (baseChainId id : Int)
    (call : Call) (x : Except Failure Outcome) (h : s.HasSlots (targets chainIds))
    (hid : id ∈ targets chainIds) (hsupported : Chain.isSupported id = true)
    (hreached : s.reached address id = some x)
    (hcall : call ∈ (s.analyze (some address) id).asked) :
    call ∈ (s.run address chainIds baseChainId).asked := by
  have hasked : (s.visit address id).asked ∈
      (s.visits address (targets chainIds)).map Timed.asked := by
    rw [s.asked_visits address _ h]
    exact List.mem_map.mpr ⟨id, hid, if_pos hsupported⟩
  rw [s.run_of_hasSlots address chainIds baseChainId h, Timed.asked_map, Timed.asked_all,
    List.flatMap_def, List.mem_flatten]
  refine ⟨_, hasked, ?_⟩
  rw [(s.reached_eq_some address id x hreached).2]
  exact hcall

end Surveyor

end TokenRisk
