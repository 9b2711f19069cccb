import TokenRisk.Proofs.Address
import TokenRisk.Proofs.Punctual

/-!
# What is looked up

An analysis asks for the code and the source of its token before anything else, and for nothing else
it asks unless there is code. So these two lookups are prompt: no positive limit for a chain comes
before them, and they are made before the analysis ends. A survey looks every supported target up
once, and what is looked up besides is the requested chain if the survey leaves it out or does not
reach it in time.

## Key results

- `Analyzer.filter_asked_analyze`: an analysis that starts looks up its token, once
- `Surveyor.filter_asked_run`: a survey asks what the analyses of its supported targets ask
-/

namespace TokenRisk

/-- Whether a call asks for the code of a contract or for its source. -/
def Call.isLookup : Call → Bool
  | .code .. => true
  | .source .. => true
  | _ => false

/-- The lookups of a token on a chain. -/
def Call.lookups (address : String) (chainId : Int) : List Call :=
  [.code address chainId, .source address chainId]

/-! ## Analyses -/

namespace Analyzer

variable (a : Analyzer)

/-- The `check` of an address comes to its end, the address is valid, and the chain is supported. -/
def StartsOn (address : Option String) (chainId : Int) : Prop :=
  ∃ check, Address.check a.scheme address = .ok check ∧ check.isValid = true ∧
    Chain.isSupported chainId = true

/-- If `StartsOn` does not hold, `analyze` makes no call. -/
theorem analyze_of_not_startsOn (address : Option String) (chainId : Int)
    (h : ¬ a.StartsOn address chainId) : ∃ x, a.analyze address chainId = pure x := by
  unfold analyze
  split
  · exact ⟨_, rfl⟩
  · rename_i check hcheck
    simp only [Address.Check.normalized?]
    cases hvalid : check.isValid with
    | false => exact ⟨_, rfl⟩
    | true =>
      cases hsupported : Chain.isSupported chainId with
      | false => exact ⟨_, rfl⟩
      | true => exact absurd ⟨check, hcheck, hvalid, hsupported⟩ h

/-- If `StartsOn` holds, `analyze` is `analyzeValid` of the address. -/
theorem analyze_of_startsOn (address : Option String) (chainId : Int)
    (h : a.StartsOn address chainId) :
    ∃ notes, a.analyze address chainId =
      (a.analyzeValid (Text.lower (address.getD "")) chainId notes).map fun r =>
        .ok (a.orUnexpected (Text.lower (address.getD "")) chainId r) := by
  obtain ⟨check, hcheck, hvalid, hsupported⟩ := h
  refine ⟨check.warnings, ?_⟩
  simp only [analyze, hcheck, Address.Check.normalized?, hvalid, hsupported, ↓reduceIte,
    address_check a.scheme address check hcheck, Bool.not_true, Bool.false_eq_true]

/-- `awaitWithin` asks its own question only. -/
theorem mem_asked_awaitWithin {α : Type} (reply : Reply α) (call : Call)
    (limit : Option Binary64) (provider : String) (k : Call)
    (h : k ∈ (reply.awaitWithin call limit provider).asked) : k = call :=
  List.mem_singleton.mp (Timed.mem_asked_of_within limit _ (reply.await call) k h)

private theorem not_isLookup_creatorLabel (creator : Json) (chainId : Int) :
    ∀ k ∈ (a.creatorLabel creator chainId).asked, k.isLookup = false := by
  intro k hk
  cases creator with
  | string address =>
    simp only [creatorLabel] at hk
    split at hk
    · cases hk
    · rw [Timed.asked_map] at hk
      rw [mem_asked_awaitWithin _ _ _ _ k hk]
      rfl
  | _ =>
    simp only [creatorLabel] at hk
    split at hk <;> cases hk

private theorem not_isLookup_ownership (contract : Contract) :
    ∀ k ∈ (a.ownership contract).asked, k.isLookup = false := by
  intro k hk
  rw [ownership, Timed.asked_bind] at hk
  rcases List.mem_append.mp hk with hk | hk
  · rw [mem_asked_awaitWithin _ _ _ _ k hk]
    rfl
  · -- A creation that is known leads to a question about its creator.
    split at hk
    · split at hk <;> cases hk
    · cases hk
    · exact a.not_isLookup_creatorLabel _ _ k hk

private theorem not_isLookup_holders (address : String) (chainId : Int) :
    ∀ k ∈ (a.holders address chainId).asked, k.isLookup = false := by
  intro k hk
  rw [holders, Timed.asked_map] at hk
  rw [mem_asked_awaitWithin _ _ _ _ k hk]
  rfl

/-- `parts` ask what `ownership` and `holders` ask. -/
theorem asked_parts (contract : Contract) :
    (a.parts contract).asked = (a.ownership contract).asked ++
      (a.holders contract.address contract.chainId).asked := by
  rw [← Timed.asked_spawned (a.ownership contract),
    ← Timed.asked_spawned (a.holders contract.address contract.chainId)]
  simp only [Timed.asked, ← List.map_append]
  refine congrArg _ ?_
  -- The standard and the capabilities are read off the contract.
  simp only [parts]
  show (a.standard contract).spawned.calls ++ _ ++ _ ++ (a.findings contract).spawned.calls = _
  rw [show (a.standard contract).spawned.calls = [] from rfl,
    show (a.findings contract).spawned.calls = [] from rfl, List.nil_append, List.append_nil]

/-- `parts` look nothing up. -/
theorem not_isLookup_parts (contract : Contract) :
    ∀ k ∈ (a.parts contract).asked, k.isLookup = false := by
  intro k hk
  rw [asked_parts] at hk
  rcases List.mem_append.mp hk with hk | hk
  · exact a.not_isLookup_ownership contract k hk
  · exact a.not_isLookup_holders _ _ k hk

/-- What `analyzeValid` does after the `fetch` looks nothing up and does not go back in time. -/
private theorem analyzeValid_eq_bind (address : String) (chainId : Int) (notes : List String) :
    ∃ rest, a.analyzeValid address chainId notes = (a.fetch address chainId).bind rest ∧
      ∀ fetched, (∀ k ∈ (rest fetched).asked, k.isLookup = false) ∧
        0 ≤ (rest fetched).finish.time := by
  refine ⟨_, rfl, fun fetched => ?_⟩
  have hpure (x : Except Failure Outcome) :
      (∀ k ∈ (pure x : Timed Call (Except Failure Outcome)).asked, k.isLookup = false) ∧
        0 ≤ (pure x : Timed Call (Except Failure Outcome)).finish.time :=
    ⟨by simp [Timed.asked_pure], Rat.le_refl⟩
  cases fetched with
  | error f => exact hpure _
  | ok fetched =>
    simp only []
    split
    · exact hpure _
    · split
      · exact hpure _
      · -- Only with code there is more to ask.
        exact ⟨a.not_isLookup_parts fetched.contract, Timed.time_joinAt_nonneg _⟩

/-- If `StartsOn` holds, `analyze` is a `fetch` and what comes after it. -/
private theorem analyze_eq_bind (address : Option String) (chainId : Int)
    (hstarts : a.StartsOn address chainId) :
    ∃ rest, a.analyze address chainId =
        (a.fetch (Text.lower (address.getD "")) chainId).bind rest ∧
      ∀ fetched, (∀ k ∈ (rest fetched).asked, k.isLookup = false) ∧
        0 ≤ (rest fetched).finish.time := by
  obtain ⟨notes, hanalyze⟩ := a.analyze_of_startsOn address chainId hstarts
  obtain ⟨rest, hvalid, hrest⟩ :=
    a.analyzeValid_eq_bind (Text.lower (address.getD "")) chainId notes
  exact ⟨fun fetched => (rest fetched).map fun r =>
      .ok (a.orUnexpected (Text.lower (address.getD "")) chainId r),
    by rw [hanalyze, hvalid, Timed.map_bind], hrest⟩

/-- The round by which `analyze` has looked up its token. -/
def lookupRound : Nat :=
  Timed.turnsUnder a.callLimit + 1

theorem ble_lookupRound : (Instant.rounds a.lookupRound).ble (.rounds 2) = true := by
  rw [lookupRound]
  cases a.callLimit with
  | none => exact show (Instant.rounds 1).ble (.rounds 2) = true by decide
  | some limit => exact Instant.ble_refl _

private theorem isPrompt_awaitWithin {α : Type} (reply : Reply α) (call : Call)
    (provider : String) :
    (reply.awaitWithin call a.callLimit provider).IsPrompt Call.isLookup
      (Timed.turnsUnder a.callLimit) :=
  Timed.isPrompt_call_within call _ _ _ _

private theorem isPrompt_fetch (address : String) (chainId : Int) :
    (a.fetch address chainId).IsPrompt Call.isLookup a.lookupRound :=
  (Timed.isPrompt_both ((a.isPrompt_awaitWithin _ _ _).map recorded)
    ((a.isPrompt_awaitWithin _ _ _).map recorded)).map _

private theorem isPunctual_fetch (address : String) (chainId : Int) :
    (a.fetch address chainId).IsPunctual Call.isLookup :=
  (Timed.isPunctual_both_of_isPrompt ((a.isPrompt_awaitWithin _ _ _).map recorded)
    ((a.isPrompt_awaitWithin _ _ _).map recorded) (Timed.ble_finish_call_within ..)
    (Timed.ble_finish_call_within ..)).map _

private theorem filter_asked_fetch (hlimit : Timed.IsOpen a.callLimit) (address : String)
    (chainId : Int) :
    (a.fetch address chainId).asked.filter Call.isLookup = Call.lookups address chainId := by
  have hcall {α : Type} (reply : Reply α) (call : Call) (provider : String) :
      (reply.awaitWithin call a.callLimit provider).asked.filter Call.isLookup =
        [call].filter Call.isLookup :=
    Timed.filter_asked_within (Timed.isPrompt_call call reply.delay reply.answer) _ hlimit _
  rw [fetch, Timed.asked_map, Timed.asked_both, List.filter_append, Timed.asked_map,
    Timed.asked_map, Sources.askCode, hcall, Sources.askSource, hcall]
  rfl

/-- `analyze` looks up its token promptly. -/
theorem isPrompt_analyze (address : Option String) (chainId : Int) :
    (a.analyze address chainId).IsPrompt Call.isLookup a.lookupRound := by
  by_cases hstarts : a.StartsOn address chainId
  · obtain ⟨rest, hanalyze, hrest⟩ := a.analyze_eq_bind address chainId hstarts
    rw [hanalyze]
    exact (a.isPrompt_fetch _ chainId).bind (hrest _).1
  · obtain ⟨x, hanalyze⟩ := a.analyze_of_not_startsOn address chainId hstarts
    rw [hanalyze]
    exact Timed.isPrompt_of_forall_not (by simp)

/-- `analyze` does not end before it has looked up its token. -/
theorem isPunctual_analyze (address : Option String) (chainId : Int) :
    (a.analyze address chainId).IsPunctual Call.isLookup := by
  by_cases hstarts : a.StartsOn address chainId
  · obtain ⟨rest, hanalyze, hrest⟩ := a.analyze_eq_bind address chainId hstarts
    obtain ⟨hquiet, htime⟩ := hrest (a.fetch _ chainId).value
    rw [hanalyze]
    exact Timed.isPunctual_bind (a.isPunctual_fetch _ chainId)
      (Timed.isPunctual_of_forall_not hquiet) htime
  · obtain ⟨x, hanalyze⟩ := a.analyze_of_not_startsOn address chainId hstarts
    rw [hanalyze]
    exact Timed.isPunctual_pure x

/-- If `StartsOn` holds, `analyze` asks for the `lookups` of its token, once. -/
theorem filter_asked_analyze (hlimit : Timed.IsOpen a.callLimit) (address : Option String)
    (chainId : Int) (hstarts : a.StartsOn address chainId) :
    (a.analyze address chainId).asked.filter Call.isLookup =
      Call.lookups (Text.lower (address.getD "")) chainId := by
  obtain ⟨rest, hanalyze, hrest⟩ := a.analyze_eq_bind address chainId hstarts
  have hquiet := (hrest (a.fetch (Text.lower (address.getD "")) chainId).value).1
  rw [hanalyze, Timed.asked_bind, List.filter_append,
    a.filter_asked_fetch hlimit, List.filter_eq_nil_iff.mpr (by simpa using hquiet),
    List.append_nil]

/-- `analyze` takes at least as long as its `fetch`. -/
theorem time_fetch_le_analyze (address : Option String) (chainId : Int)
    (hstarts : a.StartsOn address chainId) :
    (a.fetch (Text.lower (address.getD "")) chainId).finish.time ≤
      (a.analyze address chainId).finish.time := by
  obtain ⟨rest, hanalyze, hrest⟩ := a.analyze_eq_bind address chainId hstarts
  rw [hanalyze]
  exact Instant.time_le_time_after _ _ (hrest _).2

theorem time_analyze_nonneg (address : Option String) (chainId : Int) :
    0 ≤ (a.analyze address chainId).finish.time := by
  by_cases hstarts : a.StartsOn address chainId
  · exact Rat.le_trans (Timed.time_both_nonneg _ _) (a.time_fetch_le_analyze _ _ hstarts)
  · obtain ⟨x, hanalyze⟩ := a.analyze_of_not_startsOn address chainId hstarts
    rw [hanalyze]
    exact Rat.le_refl

/-- For a canonical address `StartsOn` holds on every supported chain. -/
theorem startsOn_iff_of_isCanonical (address : Option String) (chainId : Int)
    (h : Address.IsCanonical (address.getD "")) :
    a.StartsOn address chainId ↔ Chain.isSupported chainId = true := by
  constructor
  · rintro ⟨_, _, _, hsupported⟩
    exact hsupported
  · intro hsupported
    obtain ⟨found, hfound, hvalid⟩ := h.check_isValid a.scheme
    exact ⟨found, hfound, hvalid, hsupported⟩

/-- The lookups of `analyze` for a canonical address on one chain. -/
theorem filter_asked_of_isCanonical (hlimit : Timed.IsOpen a.callLimit) (address : Option String)
    (chainId : Int) (h : Address.IsCanonical (address.getD "")) :
    (a.analyze address chainId).asked.filter Call.isLookup =
      ([chainId].filter Chain.isSupported).flatMap
        (Call.lookups (Text.lower (address.getD ""))) := by
  -- The analysis of a canonical address starts exactly on a supported chain.
  cases hsupported : Chain.isSupported chainId with
  | true =>
    rw [a.filter_asked_analyze hlimit address chainId
      ((a.startsOn_iff_of_isCanonical address chainId h).mpr hsupported)]
    simp [hsupported]
  | false =>
    have hstarts : ¬ a.StartsOn address chainId := by
      rw [a.startsOn_iff_of_isCanonical address chainId h, hsupported]
      decide
    obtain ⟨x, hanalyze⟩ := a.analyze_of_not_startsOn address chainId hstarts
    simp [hanalyze, hsupported]

/-- `analyze` comes to an outcome for a canonical address. -/
theorem analyze_isOk_of_isCanonical (address : Option String) (chainId : Int)
    (h : Address.IsCanonical (address.getD "")) :
    ∃ o, (a.analyze address chainId).value = .ok o := by
  obtain ⟨found, hfound, _⟩ := h.check_isValid a.scheme
  exact ⟨_, a.value_analyze_of_check address chainId found hfound⟩

/-- `analyze` makes no call for a text that is no address. -/
theorem asked_analyze_of_not_isAddress (address : Option String) (chainId : Int)
    (h : Address.isAddress (address.getD "") = false) : (a.analyze address chainId).asked = [] := by
  have hstarts : ¬ a.StartsOn address chainId := by
    rintro ⟨check, hcheck, hvalid, _⟩
    rw [isValid_check a.scheme address check hcheck, h] at hvalid
    cases hvalid
  obtain ⟨x, hanalyze⟩ := a.analyze_of_not_startsOn address chainId hstarts
  rw [hanalyze, Timed.asked_pure]

end Analyzer

/-! ## Surveys -/

namespace Surveyor

variable (s : Surveyor) {p : Call → Bool} {n : Nat} (address : String)

/-- `visit` asks what the analysis of its chain asks promptly. -/
private theorem filter_asked_visit {chainId : Int}
    (hlimit : Timed.IsOpen (s.chainLimit.map Number.toBinary64))
    (h : (s.analyze (some address) chainId).IsPrompt p n) :
    (s.visit address chainId).asked.filter p =
      (s.analyze (some address) chainId).asked.filter p := by
  rw [visit, Timed.asked_map, Timed.filter_asked_within (h.map some) _ hlimit, Timed.asked_map]

/-- `run` asks nothing that none of its analyses asks. -/
theorem exists_of_mem_asked_run (chainIds : Option (List Int)) (baseChainId : Int) (k : Call)
    (hk : k ∈ (s.run address chainIds baseChainId).asked) :
    ∃ id, k ∈ (s.analyze (some address) id).asked := by
  by_cases hslots : s.HasSlots (targets chainIds)
  · -- A call of the survey is one of a visit, and a visit asks only on a supported chain.
    rw [s.run_of_hasSlots address chainIds baseChainId hslots, Timed.asked_map, Timed.asked_all,
      List.flatMap_def, s.asked_visits address _ hslots] at hk
    obtain ⟨asked, hasked, hk⟩ := List.mem_flatten.mp hk
    obtain ⟨id, _, rfl⟩ := List.mem_map.mp hasked
    split at hk
    · rw [visit, Timed.asked_map] at hk
      exact ⟨id, Timed.mem_asked_of_within _ _ ((s.analyze (some address) id).map some) k hk⟩
    · cases hk
  · -- Without slots nothing is asked.
    obtain ⟨f, hrun⟩ := s.run_of_not_hasSlots address chainIds baseChainId hslots
    rw [hrun] at hk
    cases hk

/-- `run` asks what the analyses of its supported targets ask promptly. -/
theorem filter_asked_run (chainIds : Option (List Int)) (baseChainId : Int)
    (hslots : s.HasSlots (targets chainIds))
    (hlimit : Timed.IsOpen (s.chainLimit.map Number.toBinary64))
    (hprompt : ∀ id, (s.analyze (some address) id).IsPrompt p n) (asked : Int → List Call)
    (hasked : ∀ id, Chain.isSupported id = true →
      (s.analyze (some address) id).asked.filter p = asked id) :
    (s.run address chainIds baseChainId).asked.filter p =
      ((targets chainIds).filter Chain.isSupported).flatMap asked := by
  rw [s.run_of_hasSlots address chainIds baseChainId hslots, Timed.asked_map, Timed.asked_all,
    List.flatMap_def, s.asked_visits address _ hslots]
  -- The order of the targets is that of the visits, whatever their starts.
  induction targets chainIds with
  | nil => rfl
  | cons id ids ih =>
    rw [List.map_cons, List.flatten_cons, List.filter_append, ih]
    cases hsupported : Chain.isSupported id with
    | true =>
      rw [List.filter_cons_of_pos hsupported, List.flatMap_cons, if_pos rfl,
        s.filter_asked_visit address hlimit (hprompt id), hasked id hsupported]
    | false =>
      rw [List.filter_cons_of_neg (by simp [hsupported]), if_neg (by simp)]
      rfl

/-- `run` does not end before the questions of its visits are asked. -/
theorem isPunctual_run (chainIds : Option (List Int)) (baseChainId : Int)
    (hslots : s.HasSlots (targets chainIds))
    (h : ∀ id, (s.analyze (some address) id).IsPunctual p) :
    (s.run address chainIds baseChainId).IsPunctual p := by
  rw [s.run_of_hasSlots address chainIds baseChainId hslots]
  refine (Timed.isPunctual_all fun x hx => ?_).map _
  obtain ⟨v, hv, rfl⟩ := List.mem_map.mp hx
  obtain ⟨id, _, start, rfl⟩ := s.mem_stops address _ v hv
  rw [run_stopAt]
  apply Timed.isPunctual_wait_bind
  split
  · exact (Timed.isPunctual_within ((h id).map some) _ none).map _
  · exact Timed.isPunctual_pure _

/-- A `run` that fails has waited for its visits. -/
theorem ble_finish_run_of_error (chainIds : Option (List Int)) (baseChainId : Int)
    (hslots : s.HasSlots (targets chainIds)) (f : Failure)
    (h : (s.run address chainIds baseChainId).value = .error f) :
    (Instant.rounds 2).ble (s.run address chainIds baseChainId).finish = true := by
  rw [s.run_of_hasSlots address chainIds baseChainId hslots] at h ⊢
  cases hvisits : s.visits address (targets chainIds) with
  | nil =>
    -- Without visits there is nothing to add up.
    rw [hvisits] at h
    cases h
  | cons visit visits => exact Timed.rounds_ble_joinAt _

end Surveyor

end TokenRisk
