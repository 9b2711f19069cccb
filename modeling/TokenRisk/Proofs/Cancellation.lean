import TokenRisk.Proofs.OncePerChain
import TokenRisk.Proofs.Session
import TokenRisk.Proofs.Transparency
import TokenRisk.Proofs.WellFormed

/-!
# Cancellation

A verification that is told to stop while it is at work ends by being cancelled, unless a failure is
passed on in its place. This happens where two tasks are waited for side by side and one of them
fails in a way that is no value: a lookup with which an analysis starts, or a survey beside the
analysis of a chain that is no target. In the rounds between that failure and its being passed on a
cancellation gets lost. It then ends in an answer that denies everything and is not stored, so the
cache is as the lookup left it in any case. The limit for a chain tells an analysis to stop in the
same way, and if the cancellation gets lost, the failed analysis is handed on to the survey.

## Key results

- `Timed.outlasts_both_iff`: in which rounds two tasks side by side outlast being told to stop
- `Analyzer.outlasts_analyze_iff`: so an analysis does only for its lookups
- `Scene.outlasts_work_iff`: and the work of a request for an analysis or for its survey
- `Scene.stopsAt_of_isPending`: what a verification comes to that is told to stop
- `Scene.givesUpLate`: what a survey has of an analysis that runs out of time
-/

namespace TokenRisk

namespace Timed

variable {κ α β ε : Type}

/-! ## Work that is told to stop -/

@[simp] theorem outlasts_pure (a : α) (told : Instant) :
    (pure a : Timed κ α).outlasts told = false := rfl

@[simp] theorem outlasts_map (f : α → β) (x : Timed κ α) (told : Instant) :
    (x.map f).outlasts told = x.outlasts told := rfl

/-- `bind` outlasts being told to stop if the first piece does and the second takes no time, or if
the second does once it is at work. -/
theorem outlasts_bind_iff (x : Timed κ α) (f : α → Timed κ β) (told : Instant) :
    (x.bind f).outlasts told = true ↔
      x.outlasts told = true ∧ (f x.value).finish.time = 0 ∨
        x.finish.ble told = true ∧ (f x.value).outlasts (told.since x.finish) = true := by
  simp [Timed.bind]

/-- `x` fails, and `y` not before it. -/
structure LeftFailsFirst (x : Timed κ (Except ε α)) (y : Timed κ (Except ε β)) : Prop where
  fails : ∃ e, x.value = .error e
  first : ∀ e, y.value = .error e → y.spawned.finish.blt x.spawned.finish = false

/-- `y` fails, and `x` not before it or with it. -/
structure RightFailsFirst (x : Timed κ (Except ε α)) (y : Timed κ (Except ε β)) : Prop where
  fails : ∃ e, y.value = .error e
  first : ∀ e, x.value = .error e → y.spawned.finish.blt x.spawned.finish = true

/-- `both` outlasts being told to stop exactly if the one that fails first `passesOn` its
failure. -/
theorem outlasts_both_iff (x : Timed κ (Except ε α)) (y : Timed κ (Except ε β)) (told : Instant) :
    (both x y).outlasts told = true ↔
      LeftFailsFirst x y ∧ passesOn x.spawned y.spawned told = true ∨
        RightFailsFirst x y ∧ passesOn y.spawned x.spawned told = true := by
  have hleft : LeftFailsFirst x y ↔ (∃ e, x.value = .error e) ∧
      ∀ e, y.value = .error e → y.spawned.finish.blt x.spawned.finish = false :=
    ⟨fun h => ⟨h.fails, h.first⟩, fun h => ⟨h.1, h.2⟩⟩
  have hright : RightFailsFirst x y ↔ (∃ e, y.value = .error e) ∧
      ∀ e, x.value = .error e → y.spawned.finish.blt x.spawned.finish = true :=
    ⟨fun h => ⟨h.fails, h.first⟩, fun h => ⟨h.1, h.2⟩⟩
  rw [hleft, hright]
  simp only [both, value_spawned]
  cases hx : x.value <;> cases hy : y.value
  case error.error e e' =>
    -- Both fail, and the sooner failure counts.
    cases hsooner : y.spawned.finish.blt x.spawned.finish <;> simp
  all_goals simp

/-- A failure that comes first is that of `both`. -/
theorem LeftFailsFirst.value_both {x : Timed κ (Except ε α)} {y : Timed κ (Except ε β)}
    (h : LeftFailsFirst x y) : ∃ e, x.value = .error e ∧ (both x y).value = .error e := by
  obtain ⟨e, he⟩ := h.fails
  refine ⟨e, he, ?_⟩
  simp only [both, value_spawned, he]
  cases hy : y.value with
  | ok b => rfl
  | error e' => simp [h.first e' hy]

theorem RightFailsFirst.value_both {x : Timed κ (Except ε α)} {y : Timed κ (Except ε β)}
    (h : RightFailsFirst x y) : ∃ e, y.value = .error e ∧ (both x y).value = .error e := by
  obtain ⟨e, he⟩ := h.fails
  refine ⟨e, he, ?_⟩
  simp only [both, value_spawned, he]
  cases hx : x.value with
  | ok a => rfl
  | error e' => simp [h.first e' hx]

/-! ## Limits that run out -/

/-- A limit in seconds runs out on work before it would go on, as `limited` counts. -/
def IsLate (limit : Binary64) (x : Timed κ α) : Prop :=
  limit.le .zero = true ∨ match limit with
    | .infinite _ => False
    | .finite limit => 1000 * limit.toRat ≤ x.finish.time
    | .nan => x.finish.ble .zero = false

/-- Work on which a limit runs out `outlasts` being told to stop by it, so that `limited` hands it
on. -/
def IsHandedOn (limit : Binary64) (x : Timed κ α) : Prop :=
  limit.le .zero = false ∧ match limit with
    | .infinite _ => False
    | .finite limit =>
      x.finish.time = 1000 * limit.toRat ∧ x.outlasts ⟨1000 * limit.toRat, 0⟩ = true
    | .nan => x.outlasts (.rounds 1) = true ∧ x.outlasts (.rounds 2) = true

/-- At a time after its start a `spawned` task outlasts being told to stop exactly if its work
does. -/
theorem outlasts_spawned_of_pos (x : Timed κ α) {time : Rat} (h : 0 < time) :
    x.spawned.outlasts ⟨time, 0⟩ = x.outlasts ⟨time, 0⟩ := by
  have hlater : (Instant.rounds 1).ble ⟨time, 0⟩ = true := (Instant.ble_iff _ _).mpr (.inl h)
  have hsince : Instant.since ⟨time, 0⟩ (.rounds 1) = ⟨time, 0⟩ := by
    have htime : ¬ (⟨time, 0⟩ : Instant).time = (Instant.rounds 1).time := (Std.ne_of_lt h).symm
    rw [Instant.since, if_neg htime]
    exact congrArg (Instant.mk · 0) (show time - 0 = time by grind)
  rw [outlasts_spawned, hlater, hsince, Bool.true_and]

/-- Work that ends in the first turn of its `spawned` task takes no time. -/
private theorem ble_zero_of_ble_spawned (x : Timed κ α)
    (h : x.spawned.finish.ble (.rounds 1) = true) : x.finish.ble .zero = true := by
  have hfinish : x.spawned.finish = Instant.after (.rounds 1) x.finish := rfl
  rw [hfinish, Instant.ble_iff] at h
  rw [Instant.ble_iff]
  simp only [Instant.after, Instant.rounds, Instant.zero] at h ⊢
  split at h <;> grind

/-- Work that `IsLate` comes to nothing `within` its limit, unless it is handed on all the same. -/
theorem value_within_of_isLate {limit : Binary64} (expired : α) {x : Timed κ α}
    (hlate : IsLate limit x) (hstops : ¬ IsHandedOn limit x) :
    (x.within (some limit) expired).value = expired := by
  simp only [within]
  split
  · rfl
  · rename_i hopen
    have hopen' : limit.le .zero = false := by simpa using hopen
    cases limit with
    | infinite negative => exact (hlate.resolve_left hopen).elim
    -- The limit is a time, and the work would take as long at least.
    | finite limit =>
      have hpos : 0 < 1000 * limit.toRat := Rat.mul_pos (by decide) (toRat_pos limit (by
        simpa [Binary64.le, Binary64.zero] using hopen))
      have hcut : ¬ (x.spawned.finish.time = 1000 * limit.toRat ∧
          x.spawned.outlasts ⟨1000 * limit.toRat, 0⟩ = true) := by
        rw [time_spawned, outlasts_spawned_of_pos x hpos]
        exact fun h => hstops ⟨hopen', h⟩
      have hlonger : 1000 * limit.toRat ≤ x.finish.time := hlate.resolve_left hopen
      rw [limited, if_neg (by rw [time_spawned]; exact Rat.not_lt.mpr hlonger), if_neg hcut,
        givenUp]
    -- The limit runs out in the first turn, in which the work does not end.
    | nan =>
      have hlater : ¬ x.spawned.finish.ble (.rounds 1) = true := by
        intro hfirst
        have hzero : x.finish.ble .zero = true := ble_zero_of_ble_spawned x hfirst
        rw [hlate.resolve_left hopen] at hzero
        cases hzero
      have hcut : ¬ (x.spawned.outlasts (.rounds 2) = true ∧
          x.spawned.outlasts (.rounds 3) = true) :=
        fun h => hstops ⟨hopen', h⟩
      rw [limited, if_neg hlater, if_neg hcut, givenUp]

/-- Work that `IsHandedOn` comes to its own value `within` its limit. -/
theorem value_within_of_isHandedOn {limit : Binary64} (expired : α) {x : Timed κ α}
    (h : IsHandedOn limit x) : (x.within (some limit) expired).value = x.value := by
  obtain ⟨hopen, h⟩ := h
  simp only [within, hopen, Bool.false_eq_true, ↓reduceIte]
  cases limit with
  | infinite negative => exact h.elim
  | finite limit =>
    -- A limit that lets work start is positive, so the task is told to stop after its first turn.
    have hpos : 0 < 1000 * limit.toRat := Rat.mul_pos (by decide) (toRat_pos limit (by
      simpa [Binary64.le, Binary64.zero] using hopen))
    rw [limited]
    split
    · rfl
    · rw [if_pos (by rwa [time_spawned, outlasts_spawned_of_pos x hpos])]
      rfl
  | nan =>
    rw [limited]
    split
    · rfl
    · -- A limit that is no number is told to the task in two rounds, and it must outlast both.
      rw [if_pos (show x.spawned.outlasts (.rounds 2) = true ∧
        x.spawned.outlasts (.rounds 3) = true from h)]
      rfl

end Timed

/-! ## Analyses -/

namespace Analyzer

variable (a : Analyzer) (address : String) (chainId : Int)

/-- The lookup of the code, for which a failure that `isRecorded` is a value. -/
abbrev codeLookup : Timed Call (Except Failure (Except Failure String)) :=
  (a.sources.askCode a.callLimit address chainId).map recorded

/-- The lookup of the source, for which a failure that `isRecorded` is a value. -/
abbrev sourceLookup : Timed Call (Except Failure (Except Failure (Option SourceRecord))) :=
  (a.sources.askSource a.callLimit address chainId).map recorded

/-- Of the two lookups of an analysis, the one that is the first to fail in a way that is not
recorded passes its failure on, although the analysis is told to stop. -/
inductive PassesOn (told : Instant) : Prop
  | code (failure : Timed.LeftFailsFirst (a.codeLookup address chainId)
      (a.sourceLookup address chainId))
    (passed : Timed.passesOn (a.codeLookup address chainId).spawned
      (a.sourceLookup address chainId).spawned told = true)
  | source (failure : Timed.RightFailsFirst (a.codeLookup address chainId)
      (a.sourceLookup address chainId))
    (passed : Timed.passesOn (a.sourceLookup address chainId).spawned
      (a.codeLookup address chainId).spawned told = true)

/-- A failure of a lookup for which `isRecorded` does not hold. -/
structure IsUnrecorded (f : Failure) : Prop where
  unplanned : isRecorded f = false
  answered : a.codeAnswer address chainId = .error f ∨ a.sourceAnswer address chainId = .error f

theorem recorded_eq_error_iff {α : Type} (x : Except Failure α) (f : Failure) :
    recorded x = .error f ↔ x = .error f ∧ isRecorded f = false := by
  cases x with
  | ok x => simp [recorded]
  | error g =>
    simp only [recorded, Except.error.injEq]
    cases hg : isRecorded g with
    | true => grind
    | false => grind

/-- `fetch` outlasts being told to stop exactly if one of its lookups passes its failure on. -/
theorem outlasts_fetch_iff (told : Instant) :
    (a.fetch address chainId).outlasts told = true ↔ a.PassesOn address chainId told := by
  rw [fetch, Timed.outlasts_map, Timed.outlasts_both_iff]
  constructor
  · rintro (⟨hfirst, hpassed⟩ | ⟨hfirst, hpassed⟩)
    · exact .code hfirst hpassed
    · exact .source hfirst hpassed
  · rintro (⟨hfirst, hpassed⟩ | ⟨hfirst, hpassed⟩)
    · exact .inl ⟨hfirst, hpassed⟩
    · exact .inr ⟨hfirst, hpassed⟩

variable {address chainId} in
/-- A failure that is passed on is that of `fetch`. -/
theorem PassesOn.value_fetch {told : Instant} (h : a.PassesOn address chainId told) :
    ∃ f, a.IsUnrecorded address chainId f ∧ (a.fetch address chainId).value = .error f := by
  cases h with
  | code failure _ =>
    obtain ⟨f, hcode, hboth⟩ := failure.value_both
    obtain ⟨hcode, hf⟩ := (recorded_eq_error_iff _ f).mp hcode
    refine ⟨f, ⟨hf, .inl hcode⟩, ?_⟩
    rw [fetch, Timed.value_map, hboth]
  | source failure _ =>
    obtain ⟨f, hsource, hboth⟩ := failure.value_both
    obtain ⟨hsource, hf⟩ := (recorded_eq_error_iff _ f).mp hsource
    refine ⟨f, ⟨hf, .inr hsource⟩, ?_⟩
    rw [fetch, Timed.value_map, hboth]

/-- What is left of `analyze` after `fetch` is given up when it is told to stop, and there is
nothing left after a fetch that failed. -/
private theorem analyze_eq_bind_fetch (address : Option String)
    (hstarts : a.StartsOn address chainId) :
    ∃ rest, a.analyze address chainId =
        (a.fetch (Text.lower (address.getD "")) chainId).bind rest ∧
      (∀ fetched told, (rest fetched).outlasts told = false) ∧
      ∀ f, rest (.error f) = pure (.ok
        (a.orUnexpected (Text.lower (address.getD "")) chainId (.error f))) := by
  obtain ⟨notes, hanalyze⟩ := a.analyze_of_startsOn address chainId hstarts
  refine ⟨_, hanalyze.trans (Timed.map_bind _ _ _), fun fetched told => ?_, fun f => rfl⟩
  cases fetched with
  | error f => rfl
  | ok fetched =>
    -- Whichever branch is taken after the fetch, nothing in it outlasts being told to stop.
    simp only []
    split
    · rfl
    · split <;> rfl

/-- `analyze` outlasts being told to stop exactly if it starts and one of its lookups passes its
failure on. -/
theorem outlasts_analyze_iff (address : Option String) (told : Instant) :
    (a.analyze address chainId).outlasts told = true ↔ a.StartsOn address chainId ∧
      a.PassesOn (Text.lower (address.getD "")) chainId told := by
  by_cases hstarts : a.StartsOn address chainId
  · obtain ⟨rest, hanalyze, hquiet, hfailed⟩ := a.analyze_eq_bind_fetch chainId address hstarts
    rw [hanalyze, Timed.outlasts_bind_iff, hquiet, outlasts_fetch_iff]
    constructor
    · rintro (⟨hpasses, _⟩ | ⟨_, hnever⟩)
      · exact ⟨hstarts, hpasses⟩
      · cases hnever
    · rintro ⟨_, hpasses⟩
      -- A failed fetch ends the analysis at once.
      obtain ⟨f, _, hf⟩ := hpasses.value_fetch
      exact .inl ⟨hpasses, by rw [hf, hfailed]; rfl⟩
  · obtain ⟨x, hanalyze⟩ := a.analyze_of_not_startsOn address chainId hstarts
    rw [hanalyze, Timed.outlasts_pure]
    simp [hstarts]

/-- What an analysis comes to that `outlasts` being told to stop: a placeholder for the failure of a
lookup that is not recorded. -/
structure EndsUnexpected (address : Option String) (o : Outcome) : Prop where
  exists_failure : ∃ f, a.IsUnrecorded (Text.lower (address.getD "")) chainId f ∧
    o = a.failure (Text.lower (address.getD "")) chainId (.unexpected f.description) []
      Analysis.failedAdvice

theorem value_analyze_of_outlasts (address : Option String) (told : Instant)
    (h : (a.analyze address chainId).outlasts told = true) :
    ∃ o, a.EndsUnexpected chainId address o ∧ (a.analyze address chainId).value = .ok o := by
  obtain ⟨hstarts, hpasses⟩ := (a.outlasts_analyze_iff chainId address told).mp h
  obtain ⟨rest, hanalyze, _, hfailed⟩ := a.analyze_eq_bind_fetch chainId address hstarts
  obtain ⟨f, hunrecorded, hf⟩ := hpasses.value_fetch
  refine ⟨_, ⟨f, hunrecorded, rfl⟩, ?_⟩
  rw [hanalyze, Timed.value_bind, hf, hfailed]
  rfl

variable {a chainId} in
/-- A placeholder that `EndsUnexpected` denies everything and may be different on another try. -/
theorem EndsUnexpected.isDenial {address : Option String} {o : Outcome}
    (h : a.EndsUnexpected chainId address o) : o.analysis.IsDenial ∧ o.isSettled = false := by
  obtain ⟨f, _, rfl⟩ := h.exists_failure
  exact ⟨a.isDenial_failure _ _ _ _ _ f.description_ne_empty, rfl⟩

/-- Lookups that answer, or fail in a way that `IsRecorded`, pass nothing on. -/
theorem not_passesOn_of_isRecorded (told : Instant)
    (hcode : IsRecorded (a.codeAnswer address chainId))
    (hsource : IsRecorded (a.sourceAnswer address chainId)) :
    ¬ a.PassesOn address chainId told := by
  intro h
  obtain ⟨f, ⟨hf, hanswer⟩, _⟩ := h.value_fetch
  have hrecorded : isRecorded f = true := hanswer.elim (hcode f) (hsource f)
  rw [hf] at hrecorded
  cases hrecorded

end Analyzer

/-! ## Surveys -/

/-- An answer that denies everything. -/
structure Verification.IsRefusal (a : Verification) : Prop where
  isSafe : a.decision.isSafe = false
  canAutomate : a.decision.canAutomate = false
  requiresApproval : a.decision.requiresApproval = false

/-- `run` is given up when it is told to stop. -/
theorem Surveyor.outlasts_run (s : Surveyor) (address : String) (chainIds : Option (List Int))
    (baseChainId : Int) (told : Instant) :
    (s.run address chainIds baseChainId).outlasts told = false := by
  simp only [run]
  split
  · rfl
  · split <;> rfl

namespace Scene

variable (c : Scene)

/-- What a survey has of the analysis of a chain that is told to stop by the `chainLimit`. -/
structure GivesUpLate : Prop where
  /-- An analysis on which the limit runs out comes to nothing, unless it outlasts this. -/
  late : ∀ address chainId limit, c.chainLimit.map Number.toBinary64 = some limit →
    Timed.IsLate limit (c.analyzer.analyze (some address) chainId) →
      (c.surveyor.reached address chainId = none ↔
        ¬ Timed.IsHandedOn limit (c.analyzer.analyze (some address) chainId))
  /-- Only the failure of a lookup that is not recorded does, and its placeholder is handed on. -/
  handedOn : ∀ address chainId limit, c.chainLimit.map Number.toBinary64 = some limit →
    Timed.IsHandedOn limit (c.analyzer.analyze (some address) chainId) →
      ∃ o, c.analyzer.EndsUnexpected chainId (some address) o ∧
        c.surveyor.reached address chainId = some (.ok o)
  /-- An analysis that comes to nothing contributes nothing but the record that says so. -/
  contributes : ∀ address chainIds baseChainId survey outcomes,
    (c.surveyor.run address chainIds baseChainId).value = .ok (survey, outcomes) →
      ∀ chainId, c.surveyor.reached address chainId = none →
        outcomes.lookup chainId = none ∧
          ∀ r ∈ survey.records, r.chainId = chainId → r.analysis = none

/-- An analysis that `IsHandedOn` is the placeholder of one that outlasts being told to stop. -/
private theorem exists_of_isHandedOn (address : Option String) (chainId : Int) (limit : Binary64)
    (h : Timed.IsHandedOn limit (c.analyzer.analyze address chainId)) :
    ∃ o, c.analyzer.EndsUnexpected chainId address o ∧
      (c.analyzer.analyze address chainId).value = .ok o := by
  have houtlasts : ∃ told, (c.analyzer.analyze address chainId).outlasts told = true := by
    obtain ⟨_, h⟩ := h
    cases limit with
    | infinite negative => exact h.elim
    | finite limit => exact ⟨_, h.2⟩
    | nan => exact ⟨_, h.1⟩
  obtain ⟨told, houtlasts⟩ := houtlasts
  exact c.analyzer.value_analyze_of_outlasts chainId address told houtlasts

/-- What a survey has `reached` of an analysis under a limit. -/
private theorem reached_eq_within (address : String) (chainId : Int) (limit : Binary64)
    (hlimit : c.chainLimit.map Number.toBinary64 = some limit) :
    c.surveyor.reached address chainId =
      (((c.analyzer.analyze (some address) chainId).map some).within (some limit) none).value :=
  congrArg (fun limit => (Timed.within limit none _).value) hlimit

/-- A survey has `reached` the placeholder of an analysis that is handed on. -/
private theorem reached_of_isHandedOn (address : String) (chainId : Int) (limit : Binary64)
    (hlimit : c.chainLimit.map Number.toBinary64 = some limit)
    (h : Timed.IsHandedOn limit (c.analyzer.analyze (some address) chainId)) :
    ∃ o, c.analyzer.EndsUnexpected chainId (some address) o ∧
      c.surveyor.reached address chainId = some (.ok o) := by
  obtain ⟨o, hends, ho⟩ := c.exists_of_isHandedOn (some address) chainId limit h
  refine ⟨o, hends, ?_⟩
  have hmap : Timed.IsHandedOn limit ((c.analyzer.analyze (some address) chainId).map some) := h
  rw [c.reached_eq_within address chainId limit hlimit, Timed.value_within_of_isHandedOn none hmap,
    Timed.value_map, ho]

theorem givesUpLate : c.GivesUpLate := by
  constructor
  case late =>
    intro address chainId limit hlimit hlate
    constructor
    · intro hnone h
      -- Late work that is not handed on has no outcome, as the limit gives it none.
      obtain ⟨o, _, ho⟩ := c.reached_of_isHandedOn address chainId limit hlimit h
      cases hnone.symm.trans ho
    · intro hstops
      have hmap : Timed.IsLate limit ((c.analyzer.analyze (some address) chainId).map some) := hlate
      rw [c.reached_eq_within address chainId limit hlimit]
      exact Timed.value_within_of_isLate none hmap hstops
  case handedOn => exact c.reached_of_isHandedOn
  case contributes =>
    intro address chainIds baseChainId survey outcomes hrun chainId hnone
    -- A chain without an outcome has none in the list, either.
    obtain ⟨_, hsurvey, rfl⟩ := c.surveyor.run_eq_ok _ _ _ _ _ hrun
    have houtcome : (c.surveyor.visitOn address chainId).2 = none := by
      rw [Surveyor.visitOn, hnone]
      split <;> rfl
    constructor
    · rw [Surveyor.lookup_outcomesOn, houtcome]
      split <;> rfl
    · -- Without an outcome the record of the chain has no analysis.
      intro r hr hid
      rw [(Survey.ofRecords_eq_ok _ _ _ _ _ hsurvey).1] at hr
      obtain ⟨id, _, rfl⟩ := List.mem_map.mp hr
      obtain rfl : id = chainId := (c.surveyor.chainId_visitOn address id).symm.trans hid
      refine Option.eq_none_iff_forall_ne_some.mpr fun a ha => ?_
      obtain ⟨o, ho, _⟩ := (c.surveyor.analysis_visitOn_iff address id a).mp ha
      cases houtcome.symm.trans ho

/-! ## Work -/

/-- The analysis of the requested chain passes the failure of a lookup on. -/
def AnalysisPassesOn (r : Request) (told : Instant) : Prop :=
  c.analyzer.StartsOn r.tokenAddress (c.chainOf r) ∧
    c.analyzer.PassesOn (Text.lower r.addressText) (c.chainOf r) told

/-- A failure is passed on in place of a cancellation that comes at a moment. -/
inductive PassesOn (moment : Instant) (r : Request) : Prop
  /-- It is that of a lookup of the only analysis. -/
  | alone (single : r.crossChain = false) (lookup : c.AnalysisPassesOn r moment)
  /-- It is that of the check of the address, while the survey beside is not over. -/
  | check (cross : r.crossChain = true) (apart : c.chainOf r ∉ Surveyor.targets r.chainIds)
    (failure : Timed.LeftFailsFirst (c.baseRun r) (c.surveyRun r))
    (passed : Timed.passesOn (c.baseRun r).spawned (c.surveyRun r).spawned moment = true)
  /-- It is that of the survey, while the analysis beside is not over. -/
  | survey (cross : r.crossChain = true) (apart : c.chainOf r ∉ Surveyor.targets r.chainIds)
    (ends : ¬ c.verifier.IsStuck r)
    (failure : Timed.RightFailsFirst (c.baseRun r) (c.surveyRun r))
    (passed : Timed.passesOn (c.surveyRun r).spawned (c.baseRun r).spawned moment = true)
  /-- It is that of a lookup of the analysis after a survey without an outcome for its chain. -/
  | again (cross : r.crossChain = true) (among : c.chainOf r ∈ Surveyor.targets r.chainIds)
    (survey : Survey) (outcomes : List (Int × Outcome))
    (surveyed : (c.surveyRun r).value = .ok (survey, outcomes))
    (unreached : outcomes.lookup (c.chainOf r) = none)
    (ended : (c.surveyRun r).finish.ble moment = true)
    (lookup : c.AnalysisPassesOn r (moment.since (c.surveyRun r).finish))

variable {c} {moment : Instant} {r : Request}

private theorem outlasts_baseRun_iff (told : Instant) :
    (c.baseRun r).outlasts told = true ↔ c.AnalysisPassesOn r told :=
  c.analyzer.outlasts_analyze_iff (c.chainOf r) r.tokenAddress told

/-- The `work` of a request for an analysis is that analysis. -/
private theorem work_of_single (id : String) (hsingle : r.crossChain = false) :
    c.verifier.work id r =
      (c.baseRun r).map fun x => x.map fun o => (c.verifier.answer id r o none, o) := by
  rw [Verifier.work, if_neg (by simp [hsingle])]
  rfl

/-- After a survey, `work` outlasts being told to stop where the analysis of a chain without an
outcome does. The survey itself is given up, so the analysis must be at work. -/
private theorem outlasts_work_among_iff (id : String) (hcross : r.crossChain = true)
    (hamong : c.chainOf r ∈ Surveyor.targets r.chainIds) :
    (c.verifier.work id r).outlasts moment = true ↔
      ∃ survey outcomes, (c.surveyRun r).value = .ok (survey, outcomes) ∧
        outcomes.lookup (c.chainOf r) = none ∧ (c.surveyRun r).finish.ble moment = true ∧
        c.AnalysisPassesOn r (moment.since (c.surveyRun r).finish) := by
  rw [work_of_crossChain id hcross, Timed.outlasts_map, analyzeWithSurvey_among hamong,
    Timed.outlasts_bind_iff, Surveyor.outlasts_run]
  constructor
  · -- A survey outlasts nothing, so it has ended before the moment.
    rintro (⟨hnever, _⟩ | ⟨hended, hafter⟩)
    · cases hnever
    · rcases hsurvey : (c.surveyRun r).value with f | ⟨survey, outcomes⟩
      · rw [hsurvey] at hafter
        cases hafter
      · rw [hsurvey, afterSurvey] at hafter
        cases hlookup : outcomes.lookup (c.chainOf r) with
        | some o =>
          -- There is an outcome, and nothing is left to do.
          rw [hlookup] at hafter
          cases hafter
        | none =>
          rw [hlookup, Timed.outlasts_map, outlasts_baseRun_iff] at hafter
          exact ⟨survey, outcomes, rfl, hlookup, hended, hafter⟩
  · rintro ⟨survey, outcomes, hsurvey, hlookup, hended, hpasses⟩
    -- The survey has ended without an outcome for the chain, so its analysis is told to stop.
    refine .inr ⟨hended, ?_⟩
    rw [hsurvey, afterSurvey, hlookup, Timed.outlasts_map, outlasts_baseRun_iff]
    exact hpasses

/-- Beside a survey, `work` outlasts being told to stop where either of the two fails first. -/
private theorem outlasts_work_apart_iff (id : String) (hcross : r.crossChain = true)
    (hapart : c.chainOf r ∉ Surveyor.targets r.chainIds) :
    (c.verifier.work id r).outlasts moment = true ↔
      Timed.LeftFailsFirst (c.baseRun r) (c.surveyRun r) ∧
          Timed.passesOn (c.baseRun r).spawned (c.surveyRun r).spawned moment = true ∨
        Timed.RightFailsFirst (c.baseRun r) (c.surveyRun r) ∧
          Timed.passesOn (c.surveyRun r).spawned (c.baseRun r).spawned moment = true := by
  obtain ⟨finish, hbeside⟩ := analyzeWithSurvey_beside hapart
  rw [work_of_crossChain id hcross, Timed.outlasts_map, hbeside, Timed.outlasts_map,
    Timed.outlasts_both_iff]

/-- `work` outlasts being told to stop exactly if a failure is passed on, in one of the ways of
`PassesOn`. -/
theorem outlasts_work_iff (id : String) (hslots : ¬ c.verifier.IsStuck r) :
    (c.verifier.work id r).outlasts moment = true ↔ c.PassesOn moment r := by
  constructor
  · -- What outlasts the moment is an analysis, whichever part of the work it is.
    intro h
    cases hcross : r.crossChain with
    | false =>
      rw [work_of_single id hcross, Timed.outlasts_map, outlasts_baseRun_iff] at h
      exact .alone hcross h
    | true =>
      by_cases htarget : c.chainOf r ∈ Surveyor.targets r.chainIds
      · obtain ⟨survey, outcomes, hsurvey, hlookup, hended, hpasses⟩ :=
          (outlasts_work_among_iff id hcross htarget).mp h
        exact .again hcross htarget survey outcomes hsurvey hlookup hended hpasses
      · rcases (outlasts_work_apart_iff id hcross htarget).mp h with
          ⟨hfirst, hpassed⟩ | ⟨hfirst, hpassed⟩
        · exact .check hcross htarget hfirst hpassed
        · exact .survey hcross htarget hslots hfirst hpassed
  · intro h
    -- Each of the four ways to pass on a failure makes the work outlast the moment.
    cases h with
    | alone hsingle hpasses =>
      rw [work_of_single id hsingle, Timed.outlasts_map, outlasts_baseRun_iff]
      exact hpasses
    | check hcross hapart hfirst hpassed =>
      exact (outlasts_work_apart_iff id hcross hapart).mpr (.inl ⟨hfirst, hpassed⟩)
    | survey hcross hapart _ hfirst hpassed =>
      exact (outlasts_work_apart_iff id hcross hapart).mpr (.inr ⟨hfirst, hpassed⟩)
    | again hcross hamong survey outcomes hsurvey hlookup hended hpasses =>
      exact (outlasts_work_among_iff id hcross hamong).mpr
        ⟨survey, outcomes, hsurvey, hlookup, hended, hpasses⟩

variable (c r) in
/-- No failure that is not planned gets in the way of a request: its chain has its lookups answered
or their failures recorded, its address is checked to the end, and its survey comes about. -/
structure IsPlanned : Prop where
  code : Analyzer.IsRecorded (c.analyzer.codeAnswer (Text.lower r.addressText) (c.chainOf r))
  source : Analyzer.IsRecorded (c.analyzer.sourceAnswer (Text.lower r.addressText) (c.chainOf r))
  checked : ∃ o, (c.baseRun r).value = .ok o
  surveyed : r.crossChain = true → ∃ x, (c.surveyRun r).value = .ok x

/-- Where a request `IsPlanned`, there is nothing to pass on. -/
theorem IsPlanned.not_passesOn (h : c.IsPlanned r) : ¬ c.PassesOn moment r := by
  have hquiet (told : Instant) : ¬ c.AnalysisPassesOn r told := fun hpasses =>
    c.analyzer.not_passesOn_of_isRecorded _ _ told h.code h.source hpasses.2
  rintro (⟨_, hpasses⟩ | ⟨_, _, hfirst, _⟩ | ⟨hcross, _, _, hfirst, _⟩ |
    ⟨_, _, _, _, _, _, _, hpasses⟩)
  · exact hquiet _ hpasses
  · obtain ⟨o, ho⟩ := h.checked
    obtain ⟨f, hf⟩ := hfirst.fails
    cases ho.symm.trans hf
  · obtain ⟨x, hx⟩ := h.surveyed hcross
    obtain ⟨f, hf⟩ := hfirst.fails
    cases hx.symm.trans hf
  · exact hquiet _ hpasses

/-- Work that ends in an outcome that `EndsUnexpected` is answered by a refusal, and nothing is
stored. -/
private theorem complete_of_endsUnexpected (id : String) (s : Session) (survey : Option Survey)
    {address : Option String} {chainId : Int} {o : Outcome}
    (h : c.analyzer.EndsUnexpected chainId address o) :
    ∃ a s', c.verifier.complete r (.ok (c.verifier.answer id r o survey, o)) s = (.ok a, s') ∧
      s'.cache = s.cache ∧ a.IsRefusal := by
  obtain ⟨hdenial, hunsettled⟩ := h.isDenial
  obtain ⟨hsafe, hautomate, happroval⟩ := hdenial.allFalse survey
  refine ⟨c.verifier.answer id r o survey, s, ?_, rfl, hsafe, hautomate, happroval⟩
  simp only [Verifier.complete, hunsettled, Bool.false_eq_true, ↓reduceIte]

/-- Where a failure is passed on, `complete` answers with a refusal, and nothing is stored. -/
theorem complete_of_passesOn (id : String) (s : Session) (h : c.PassesOn moment r) :
    ∃ a s', c.verifier.complete r (c.verifier.work id r).value s = (.ok a, s') ∧
      s'.cache = s.cache ∧ a.IsRefusal := by
  -- An analysis that passes on a failure `EndsUnexpected`.
  have hbase (told : Instant) (hpasses : c.AnalysisPassesOn r told) :
      ∃ o, c.analyzer.EndsUnexpected (c.chainOf r) r.tokenAddress o ∧
        (c.baseRun r).value = .ok o :=
    c.analyzer.value_analyze_of_outlasts (c.chainOf r) r.tokenAddress told
      (outlasts_baseRun_iff told |>.mpr hpasses)
  -- A failure of one of two tasks is answered as such.
  have hfailed (f : Failure) (hcross : r.crossChain = true)
      (hapart : c.chainOf r ∉ Surveyor.targets r.chainIds)
      (hboth : (Timed.both (c.baseRun r) (c.surveyRun r)).value = .error f) :
      ∃ a s', c.verifier.complete r (c.verifier.work id r).value s = (.ok a, s') ∧
        s'.cache = s.cache ∧ a.IsRefusal := by
    have hwork : (c.verifier.work id r).value = .error f := by
      rw [work_of_crossChain id hcross, Timed.value_map, Verifier.analyzeWithSurvey,
        if_pos (by simpa using hapart), Timed.value_map]
      have hboth' : (Timed.both (c.verifier.analyze r.tokenAddress (c.chainOf r))
          (c.verifier.surveyor.run r.addressText (some (Surveyor.targets r.chainIds))
            (c.chainOf r))).value = .error f := hboth
      rw [hboth']
      rfl
    rw [hwork]
    exact ⟨_, _, rfl, rfl, rfl, rfl, rfl⟩
  -- In all ways, either the analysis is the outcome, or a failure ends the work.
  cases h with
  | alone hsingle hpasses =>
    obtain ⟨o, hends, ho⟩ := hbase _ hpasses
    rw [work_of_single id hsingle, Timed.value_map, ho]
    exact complete_of_endsUnexpected id s none hends
  | check hcross hapart hfirst _ =>
    obtain ⟨f, _, hboth⟩ := hfirst.value_both
    exact hfailed f hcross hapart hboth
  | survey hcross hapart _ hfirst _ =>
    obtain ⟨f, _, hboth⟩ := hfirst.value_both
    exact hfailed f hcross hapart hboth
  | again hcross hamong survey outcomes hsurvey hlookup _ hpasses =>
    obtain ⟨o, hends, ho⟩ := hbase _ hpasses
    rw [work_of_crossChain id hcross, analyzeWithSurvey_among hamong, Timed.value_map,
      Timed.value_bind, hsurvey, afterSurvey, hlookup, Timed.value_map, ho]
    exact complete_of_endsUnexpected id s (some survey) hends

end Scene

/-! ## Verifications -/

namespace Verifier

variable (v : Verifier)

/-- All that `begin` does to the cache is to look into it. -/
theorem cache_begin (r : Request) (s : Session) :
    (v.begin r s).2.cache = (v.lookUp r s).2.cache := by
  simp only [begin]
  cases (v.lookUp r s).1 <;> rfl

/-- What is at work once a request has begun is the `work` of the request. -/
theorem work_of_begin (r : Request) (s s' : Session) (work : Timed Call Work)
    (h : v.begin r s = (.working work, s')) : ∃ id, work = v.work id r := by
  simp only [begin] at h
  cases hlookup : (v.lookUp r s).1 with
  | none =>
    simp only [hlookup, Prod.mk.injEq, Begun.working.injEq] at h
    exact ⟨_, h.1.symm⟩
  | some answer =>
    simp only [hlookup, Prod.mk.injEq] at h
    cases h.1

/-- Work that is told to stop at a moment by which it has not ended. Work without any wait has ended
in its first turn. -/
def IsPending (moment : Instant) (work : Timed Call Work) : Prop :=
  work.finish ≠ .zero ∧ moment.ble work.finish = true

/-- `cancelAt` completes pending work exactly if it `outlasts` being told to stop. -/
theorem cancelAt_of_isPending {moment : Instant} {r : Request} {s s' : Session}
    {work : Timed Call Work} (hbegin : v.begin r s = (.working work, s'))
    (hpending : IsPending moment work) :
    v.cancelAt moment r s =
      if work.outlasts moment = true then
        ({ finish := moment, value := (v.complete r work.value s').1.map fun _ => false
           calls := work.calls }, (v.complete r work.value s').2)
      else ({ finish := moment, value := .ok true, calls := work.calls }, s') := by
  obtain ⟨hwaits, hmoment⟩ := hpending
  have hnotOver : ¬ work.finish = .zero ∧ work.finish.blt moment = false := by
    simp [hwaits, Instant.blt, hmoment]
  simp only [cancelAt, hbegin, hnotOver.1, hnotOver.2, Bool.false_eq_true, false_or]

end Verifier

namespace Scene

variable (c : Scene)

/-- What a verification comes to that `cancelAt` tells to stop at a moment while it is at work. -/
structure StopsAt (moment : Instant) (r : Request) (s : Session) (work : Timed Call Work) :
    Prop where
  /-- It ends by being cancelled, and nothing is remembered beyond what its beginning left. -/
  cancelled : ¬ c.PassesOn moment r → (c.verifier.cancelAt moment r s).1.value = .ok true ∧
    (c.verifier.cancelAt moment r s).2 = (c.verifier.begin r s).2
  /-- So it does wherever all failures are planned for. -/
  planned : c.IsPlanned r → (c.verifier.cancelAt moment r s).1.value = .ok true
  /-- Only where a failure is passed on, it ends in a refusal. -/
  refused : c.PassesOn moment r → (c.verifier.cancelAt moment r s).1.value = .ok false ∧
    ∃ a, c.verifier.complete r work.value (c.verifier.begin r s).2 =
      (.ok a, (c.verifier.cancelAt moment r s).2) ∧ a.IsRefusal
  /-- In either case the cache is as the lookup left it. -/
  cache : (c.verifier.cancelAt moment r s).2.cache = (c.verifier.lookUp r s).2.cache

theorem stopsAt_of_isPending (moment : Instant) (r : Request) (s s' : Session)
    (work : Timed Call Work) (hbegin : c.verifier.begin r s = (.working work, s'))
    (hslots : ¬ c.verifier.IsStuck r) (hpending : Verifier.IsPending moment work) :
    c.StopsAt moment r s work := by
  obtain ⟨id, rfl⟩ := c.verifier.work_of_begin r s s' work hbegin
  have hcancel := c.verifier.cancelAt_of_isPending hbegin hpending
  -- Until the request is told to stop, it has touched the memory by its lookup only.
  have hcache : s'.cache = (c.verifier.lookUp r s).2.cache := by
    have h := c.verifier.cache_begin r s
    rwa [hbegin] at h
  by_cases hpasses : c.PassesOn moment r
  · -- What is outlasted is answered as if nobody had said anything.
    obtain ⟨a, t, hcomplete, ht, hrefusal⟩ := complete_of_passesOn id s' hpasses
    rw [if_pos ((outlasts_work_iff id hslots).mpr hpasses), hcomplete] at hcancel
    constructor
    case cancelled => exact fun h => absurd hpasses h
    case planned => exact fun h => absurd hpasses h.not_passesOn
    case refused =>
      rw [hcancel, hbegin]
      exact fun _ => ⟨rfl, a, hcomplete, hrefusal⟩
    case cache =>
      rw [hcancel]
      exact ht.trans hcache
  · -- Anything else is cut off.
    rw [if_neg (mt (outlasts_work_iff id hslots).mp hpasses)] at hcancel
    constructor
    case cancelled =>
      rw [hcancel, hbegin]
      exact fun _ => ⟨rfl, rfl⟩
    case planned =>
      rw [hcancel]
      exact fun _ => rfl
    case refused => exact fun h => absurd h hpasses
    case cache =>
      rw [hcancel]
      exact hcache

/-- Whatever the sources answer and whatever is remembered: a verification that is told to stop
while it is at work ends by being cancelled exactly if no failure is passed on in its place, and
leaves the cache as its `lookUp` left it in any case; and an analysis on which the limit for a chain
runs out contributes an outcome to a survey only where it passes on the failure of a lookup. -/
theorem cancelled_unless_passed_on (c : Scene) (moment : Instant) (r : Request) (s s' : Session)
    (work : Timed Call Work) (hbegin : c.verifier.begin r s = (.working work, s'))
    (hslots : ¬ c.verifier.IsStuck r) (hpending : Verifier.IsPending moment work) :
    c.StopsAt moment r s work ∧ c.GivesUpLate :=
  ⟨c.stopsAt_of_isPending moment r s s' work hbegin hslots hpending, c.givesUpLate⟩

/-- The `tardy` scene, but the source fails in an unplanned way after a second, and a single call is
given half a minute. -/
def erratic : Scene :=
  { tardy with
    analyzer := { tardy.analyzer.asking { tardy.analyzer.sources with
        source _ _ := { delay := 1000, answer := .error (.fault .runtime "boom") } } with
      callLimit := some (.finite ⟨false, 30 * twoTo 48, 1026, by decide⟩) } }

private theorem baseRun_erratic : erratic.baseRun .plain =
    erratic.analyzer.analyze (some Sources.plainAddress) 1 :=
  congrArg (erratic.analyzer.analyze (some Sources.plainAddress))
    (show erratic.chainOf .plain = 1 by decide)

/-- The failure of the source ends the analysis of `erratic` at the limit for a chain. -/
private theorem finish_analyze_erratic :
    (erratic.analyzer.analyze (some Sources.plainAddress) 1).finish = ⟨1000, 5⟩ := by
  decide +kernel

private theorem isHandedOn_erratic :
    Timed.IsHandedOn (.finite ⟨false, twoTo 52, 1022, by decide⟩)
      (erratic.analyzer.analyze (some Sources.plainAddress) 1) := by
  have hsecond : 1000 * Binary64.Finite.toRat ⟨false, twoTo 52, 1022, by decide⟩ = 1000 := by
    decide +kernel
  refine ⟨by decide +kernel, ?_, ?_⟩
  · rw [finish_analyze_erratic, hsecond]
  · rw [hsecond]
    decide +kernel

/-- The `work` of a request for the plain token takes as long as its analysis. -/
private theorem isPending_erratic {moment : Instant} (h : moment.ble ⟨1000, 5⟩ = true)
    (id : String) : Verifier.IsPending moment (erratic.verifier.work id .plain) := by
  have hfinish : (erratic.verifier.work id .plain).finish = ⟨1000, 5⟩ := by
    rw [work_of_single id rfl, baseRun_erratic, Timed.finish_map, finish_analyze_erratic]
  rw [Verifier.IsPending, hfinish]
  exact ⟨by decide, h⟩

/-- A verification that waits for a source which is about to fail is cancelled by `cancelAt` after
ten milliseconds. At the time of the failure the cancellation gets lost, whether it comes from
outside or from the limit for a chain. -/
theorem erratic_source_is_passed_on :
    ((erratic.verifier.cancelAt ⟨10, 0⟩ .plain .hourly).1.value = .ok true ∧
      erratic.StopsAt ⟨10, 0⟩ .plain .hourly
        (erratic.verifier.work (erratic.verifier.requestId 1) .plain)) ∧
    ((erratic.verifier.cancelAt ⟨1000, 0⟩ .plain .hourly).1.value = .ok false ∧
      erratic.StopsAt ⟨1000, 0⟩ .plain .hourly
        (erratic.verifier.work (erratic.verifier.requestId 1) .plain)) ∧
      ∃ o, erratic.analyzer.EndsUnexpected 1 (some Sources.plainAddress) o ∧
        erratic.surveyor.reached Sources.plainAddress 1 = some (.ok o) := by
  obtain ⟨s', hbegin⟩ : ∃ s', erratic.verifier.begin .plain .hourly =
      (.working (erratic.verifier.work (erratic.verifier.requestId 1) .plain), s') := ⟨_, rfl⟩
  have hsingle : ¬ erratic.verifier.IsStuck .plain := fun h => by cases h.1
  obtain ⟨hearly, hlimits⟩ := cancelled_unless_passed_on erratic ⟨10, 0⟩ .plain .hourly s' _ hbegin
    hsingle (isPending_erratic (by decide) _)
  obtain ⟨hlate, _⟩ := cancelled_unless_passed_on erratic ⟨1000, 0⟩ .plain .hourly s' _ hbegin
    hsingle (isPending_erratic (by decide) _)
  -- Whether a failure is passed on shows in what the work outlasts.
  have hpasses (moment : Instant) : erratic.PassesOn moment .plain ↔
      (erratic.analyzer.analyze (some Sources.plainAddress) 1).outlasts moment = true := by
    rw [← outlasts_work_iff "" hsingle, work_of_single "" rfl, Timed.outlasts_map,
      baseRun_erratic]
  refine ⟨⟨(hearly.cancelled ?_).1, hearly⟩, ⟨(hlate.refused ?_).1, hlate⟩,
    hlimits.handedOn Sources.plainAddress 1 _ rfl isHandedOn_erratic⟩
  · -- At 10 ms nothing has failed yet, and the request is cut off.
    rw [hpasses]
    decide +kernel
  · -- At 1000 ms the source has failed, and its failure is passed on.
    rw [hpasses]
    decide +kernel

end Scene

end TokenRisk
