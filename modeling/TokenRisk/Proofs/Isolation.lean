import TokenRisk.Proofs.Loss
import TokenRisk.Proofs.Verifier

/-!
# One chain disturbs no other, up to its name

The chains of a survey share the slots, the time and the list of records. Still the visit of a chain
comes to the same in any two runs in which that chain is answered, delayed and broken off alike,
whatever the other chains do. It is only afterwards, when the records are added up, that one chain
can take the survey away from all others: by a contract name that is no text.

## Key results

- `analyze_agree`: an analysis asks about its own chain only
- `run_isOk_iff`: a run with slots comes to a survey exactly if it reads all names
- `chain_is_isolated`: two runs that agree on a chain visit it alike, and show the visit alike up to
  the names that they read
-/

namespace TokenRisk

/-! ## Analyses that ask about one chain -/

/-- Sources that reply alike, after the same delays, to every question about a chain. -/
structure Sources.AgreeOn (s t : Sources) (chainId : Int) : Prop where
  code : ∀ address, t.code address chainId = s.code address chainId
  source : ∀ address, t.source address chainId = s.source address chainId
  holders : ∀ address count, t.holders address chainId count = s.holders address chainId count
  creation : ∀ address, t.creation address chainId = s.creation address chainId
  label : ∀ address, t.label address chainId = s.label address chainId

namespace Analyzer

variable {a : Analyzer} {sources : Sources} {chainId : Int}
  (h : a.sources.AgreeOn sources chainId)

include h

private theorem fetch_agree (address : String) :
    (a.asking sources).fetch address chainId = a.fetch address chainId := by
  simp only [fetch, asking, Sources.askCode, Sources.askSource, h.code, h.source]

private theorem holders_agree (address : String) :
    (a.asking sources).holders address chainId = a.holders address chainId := by
  simp only [holders, asking, Sources.askHolders, h.holders]

private theorem creatorLabel_agree (creator : Json) :
    (a.asking sources).creatorLabel creator chainId = a.creatorLabel creator chainId := by
  cases creator with
  | string address =>
    simp only [creatorLabel, asking, Sources.askLabel, h.label]
  | _ => rfl

private theorem ownership_agree (contract : Contract) (hchain : contract.chainId = chainId) :
    (a.asking sources).ownership contract = a.ownership contract := by
  subst hchain
  have hcreation : (a.asking sources).sources.askCreation (a.asking sources).callLimit
      contract.address contract.chainId =
        a.sources.askCreation a.callLimit contract.address contract.chainId := by
    simp only [asking, Sources.askCreation, h.creation]
  rw [ownership, ownership, hcreation]
  refine Timed.bind_congr _ _ _ ?_
  -- A creation that is known leads to one more question, about its creator.
  rcases (a.sources.askCreation a.callLimit contract.address contract.chainId).value with
    f | _ | creation
  · rfl
  · rfl
  · simp only [creatorLabel_agree h]

/-- `parts` ask about the chain of their contract only. -/
private theorem parts_agree (contract : Contract) (hchain : contract.chainId = chainId) :
    (a.asking sources).parts contract = a.parts contract := by
  have hownership := ownership_agree h contract hchain
  have hholders : (a.asking sources).holders contract.address contract.chainId =
      a.holders contract.address contract.chainId := by
    rw [hchain]
    exact holders_agree h contract.address
  simp only [parts, hownership, hholders]
  rfl

private theorem analyzeValid_agree (address : String) (notes : List String) :
    (a.asking sources).analyzeValid address chainId notes =
      a.analyzeValid address chainId notes := by
  rw [analyzeValid, analyzeValid, fetch_agree h]
  refine Timed.bind_congr _ _ _ ?_
  cases hfetch : (a.fetch address chainId).value with
  | error f => rfl
  | ok fetched =>
    -- The fetched contract is on the chain, so the parts ask about no other.
    obtain ⟨_, rfl⟩ := (a.value_fetch_eq_ok_iff address chainId fetched).mp hfetch
    simp only [parts_agree h _ (show (snapshot address chainId _ _).contract.chainId = chainId
      from rfl)]
    rfl

/-- `analyze` asks about its chain only: with sources that `AgreeOn` it, it comes to the same, at
the same time and with the same calls. -/
theorem analyze_agree (address : Option String) :
    (a.asking sources).analyze address chainId = a.analyze address chainId := by
  simp only [analyze, analyzeValid_agree h]
  rfl

end Analyzer

/-! ## Visits in the course of a run -/

/-- A name that was reported `IsReadable` exactly if it is a text or counts as nothing. -/
private theorem Wrapped.isReadable_iff (name : Json) :
    IsReadable name ↔ (name.isTruthy = true → ∃ text, name = .string text) := by
  simp only [IsReadable, ofReported?]
  cases htruthy : name.isTruthy with
  | false => simp
  | true =>
    cases name with
    | string text => simp
    | _ => simp

namespace Surveyor

variable (s : Surveyor)

/-- What the `visits` to a chain came to in the course of a run. -/
def visitsTo (address : String) (chainIds : Option (List Int)) (chainId : Int) : List Visit :=
  ((s.visits address (targets chainIds)).map Timed.value).filter fun v => v.1.chainId = chainId

/-- Each contract that was found in the course of a run has a text for its name, or none. -/
def ReadsNames (address : String) (chainIds : Option (List Int)) : Prop :=
  ∀ v ∈ (s.visits address (targets chainIds)).map Timed.value, ∀ a, v.1.analysis = some a →
    a.contractName.isTruthy = true → ∃ name, a.contractName = .string name

/-- A `run` shows a visit: it came to a survey with the visit's record and no other one of its
chain, and with the visit's outcome. -/
def Shows (address : String) (chainIds : Option (List Int)) (baseChainId : Int)
    (visit : Visit) : Prop :=
  ∃ survey outcomes, (s.run address chainIds baseChainId).value = .ok (survey, outcomes) ∧
    (survey.records.filter fun r => r.chainId = visit.1.chainId) = [visit.1] ∧
    outcomes.lookup visit.1.chainId = visit.2

/-- Of things that `make` makes of different chains, one is of a given chain. -/
private theorem filter_chainId {α : Type} (make : Int → α) (chainOf : α → Int) (ids : List Int)
    (chainId : Int) (hmake : ∀ id, chainOf (make id) = id) (hnodup : ids.Nodup)
    (hid : chainId ∈ ids) :
    ((ids.map make).filter fun x => chainOf x = chainId) = [make chainId] := by
  rw [List.filter_map]
  have hcomp : ((fun x => decide (chainOf x = chainId)) ∘ make) = (· == chainId) := by
    funext id
    rw [Function.comp_apply, hmake, Bool.beq_eq_decide_eq]
  rw [hcomp, List.filter_beq, hnodup.count, if_pos hid, List.replicate_one, List.map_singleton]

variable {s} {address : String} {chainIds : Option (List Int)} {chainId : Int}

/-- A chain among the `targets` is visited once, and its visit comes to what `visitOn` comes to
alone. -/
theorem visitsTo_eq (hslots : s.HasSlots (targets chainIds)) (hid : chainId ∈ targets chainIds) :
    s.visitsTo address chainIds chainId = [s.visitOn address chainId] := by
  rw [visitsTo, s.value_visits address _ hslots]
  exact filter_chainId (s.visitOn address) (·.1.chainId) _ chainId
    (s.chainId_visitOn address) (nodup_targets chainIds) hid

/-- `run` comes to a survey exactly if it `ReadsNames`. -/
theorem run_isOk_iff (baseChainId : Int) (hslots : s.HasSlots (targets chainIds)) :
    (∃ result, (s.run address chainIds baseChainId).value = .ok result) ↔
      s.ReadsNames address chainIds := by
  -- Names are read on the records of visits, and each visit has its record.
  have hnames : s.ReadsNames address chainIds ↔
      ∀ r ∈ (targets chainIds).map fun id => (s.visitOn address id).1, ∀ a,
        r.analysis = some a → Wrapped.IsReadable a.contractName := by
    simp only [ReadsNames, s.value_visits address _ hslots, List.forall_mem_map,
      Wrapped.isReadable_iff]
  rw [hnames, ← Survey.ofRecords_isOk_iff s.now (Text.lower address) baseChainId,
    s.value_run address chainIds baseChainId hslots]
  -- Nothing but a name can keep the records from adding up.
  simp only [Except.map_eq_ok_iff]
  constructor
  · rintro ⟨_, survey, hsurvey, _⟩
    exact ⟨survey, hsurvey⟩
  · rintro ⟨survey, hsurvey⟩
    exact ⟨_, survey, hsurvey, rfl⟩

/-- A run that comes to a survey `Shows` the visit of each target, and no other run shows any. -/
theorem shows_visitOn_iff (baseChainId : Int) (hslots : s.HasSlots (targets chainIds))
    (hid : chainId ∈ targets chainIds) :
    s.Shows address chainIds baseChainId (s.visitOn address chainId) ↔
      s.ReadsNames address chainIds := by
  rw [← run_isOk_iff baseChainId hslots]
  constructor
  · rintro ⟨survey, outcomes, hrun, _⟩
    exact ⟨_, hrun⟩
  · rintro ⟨⟨survey, outcomes⟩, hrun⟩
    obtain ⟨_, hsurvey, rfl⟩ := s.run_eq_ok address chainIds baseChainId survey outcomes hrun
    -- The records are those of the visits, one for each target, so the chain has one.
    have hrecords := (Survey.ofRecords_eq_ok _ _ _ _ _ hsurvey).1
    refine ⟨survey, _, hrun, ?_, ?_⟩
    · rw [chainId_visitOn, hrecords]
      exact filter_chainId (fun id => (s.visitOn address id).1) ChainRecord.chainId _ chainId
        (s.chainId_visitOn address) (nodup_targets chainIds) hid
    · rw [chainId_visitOn, lookup_outcomesOn, if_pos hid]

/-- What `visitOn` comes to depends on the analysis of its chain and on the limit for a chain. -/
theorem visitOn_congr {t : Surveyor} (hlimit : t.chainLimit = s.chainLimit)
    (hanalyze : t.analyze (some address) chainId = s.analyze (some address) chainId) :
    t.visitOn address chainId = s.visitOn address chainId := by
  have hvisitOf : t.visitOf address chainId = s.visitOf address chainId := by
    obtain ⟨_, _, _, _⟩ := s
    obtain ⟨_, _, _, _⟩ := t
    subst hlimit
    rfl
  simp only [visitOn, reached, hanalyze, hlimit, hvisitOf]

end Surveyor

/-! ## Two surveys -/

/-- What may differ between two surveys of an address under the same settings: the sources, the
chains on which the analysis itself breaks off at once, the chains that are surveyed, the one that
they are surveyed for, and how many of them are analyzed at one time. -/
structure Circumstances where
  sources : Sources
  failures : Int → Option Failure
  chainIds : Option (List Int)
  baseChainId : Int
  slots : Int

/-- An analysis that breaks off at once on the chains with a failure. -/
def Analyze.breakingOff (failures : Int → Option Failure) (analyze : Analyze) : Analyze :=
  fun address chainId =>
    match failures chainId with
    | some f => pure (.error f)
    | none => analyze address chainId

namespace Circumstances

/-- The surveyor of given settings in the circumstances. -/
def surveyor (a : Analyzer) (chainLimit : Option Number) (x : Circumstances) : Surveyor where
  analyze := Analyze.breakingOff x.failures (a.asking x.sources).analyze
  chainLimit := chainLimit
  slots := x.slots
  now := a.now

/-- Circumstances that are the same on a chain: its questions are answered alike, after the same
delays, and its analysis breaks off on both sides or on neither. -/
structure AgreeOn (x y : Circumstances) (chainId : Int) : Prop where
  sources : x.sources.AgreeOn y.sources chainId
  failures : y.failures chainId = x.failures chainId

variable {x y : Circumstances} {chainId : Int}

/-- In circumstances that agree on a chain, `visitOn` that chain comes to the same. -/
private theorem visitOn_agree (a : Analyzer) (chainLimit : Option Number) (address : String)
    (h : x.AgreeOn y chainId) :
    (y.surveyor a chainLimit).visitOn address chainId =
      (x.surveyor a chainLimit).visitOn address chainId := by
  refine Surveyor.visitOn_congr rfl ?_
  have hasking : (a.asking y.sources).analyze (some address) chainId =
      (a.asking x.sources).analyze (some address) chainId :=
    Analyzer.analyze_agree (a := a.asking x.sources) h.sources (some address)
  simp only [surveyor, Analyze.breakingOff, h.failures, hasking]

/-- In two runs with slots that agree on a chain, both visit it once and the visit comes to the
same, whatever happens to the other chains and however long the chain waits for a slot. Each run
`Shows` that visit if it `ReadsNames`: a name that is no text breaks off the whole survey, on
whatever chain it is. -/
theorem chain_is_isolated (a : Analyzer) (chainLimit : Option Number) (x y : Circumstances)
    (address : String) (chainId : Int) (hx : 0 < x.slots) (hy : 0 < y.slots)
    (hidx : chainId ∈ Surveyor.targets x.chainIds) (hidy : chainId ∈ Surveyor.targets y.chainIds)
    (h : x.AgreeOn y chainId) :
    ∃ visit,
      (x.surveyor a chainLimit).visitsTo address x.chainIds chainId = [visit] ∧
      (y.surveyor a chainLimit).visitsTo address y.chainIds chainId = [visit] ∧
      ((x.surveyor a chainLimit).Shows address x.chainIds x.baseChainId visit ↔
        (x.surveyor a chainLimit).ReadsNames address x.chainIds) ∧
      ((y.surveyor a chainLimit).Shows address y.chainIds y.baseChainId visit ↔
        (y.surveyor a chainLimit).ReadsNames address y.chainIds) := by
  -- Where the circumstances agree on a chain, its visit is the same.
  have hsame := visitOn_agree a chainLimit address h
  refine ⟨(x.surveyor a chainLimit).visitOn address chainId,
    Surveyor.visitsTo_eq (.inl hx) hidx, ?_, Surveyor.shows_visitOn_iff _ (.inl hx) hidx, ?_⟩
  · rw [← hsame]
    exact Surveyor.visitsTo_eq (.inl hy) hidy
  · rw [← hsame]
    exact Surveyor.shows_visitOn_iff _ (.inl hy) hidy

end Circumstances

/-! ## A name that is a number

The plain token is deployed on two chains, and on one of them the explorer sends a number for the
name of the contract.
-/

/-- What is answered about the plain token where one chain sends a number for its name. -/
def Sources.misnamed : Sources :=
  { Sources.plain (.ok []) with
    source _ chainId := { answer := .ok (some {
      code := "contract Safe {}"
      contractName := if chainId = 56 then .int 5 else .null }) } }

namespace Circumstances

/-- A survey of some chains over `Sources.misnamed`, without any other trouble. -/
def misnamed (chainIds : List Int) : Circumstances where
  sources := .misnamed
  failures _ := none
  chainIds := some chainIds
  baseChainId := 1
  slots := 8

/-- The surveyor of the plain scene over `Sources.misnamed`. -/
abbrev misnamedSurveyor (chainIds : List Int) : Surveyor :=
  (misnamed chainIds).surveyor (Scene.plain (.ok []) 0).analyzer none

/-- `visitOn` a supported chain finds the plain token, under the name that is sent for it. -/
private theorem analysis_misnamed (chainIds : List Int) (chainId : Int)
    (hsupported : Chain.isSupported chainId = true) :
    ∃ found,
      ((misnamedSurveyor chainIds).visitOn Sources.plainAddress chainId).1.analysis = some found ∧
      found.contractName = if chainId = 56 then .int 5 else .null := by
  obtain ⟨warnings, hvalue⟩ := Analyzer.analyze_plainAddress
    ((Scene.plain (.ok []) 0).analyzer.asking .misnamed) hsupported rfl (Analyzer.isRecorded_ok _)
  have houtcome := ((misnamedSurveyor chainIds).outcome_visitOn_iff Sources.plainAddress chainId
    _).mpr ⟨hsupported, congrArg some hvalue⟩
  refine ⟨_, (Surveyor.analysis_visitOn_iff _ _ _ _).mpr ⟨_, houtcome,
    Analyzer.isFailed_outcomeOf _ _ _ _ _, Analyzer.analysis_outcomeOf _ _ _ _ _⟩, ?_⟩
  -- The name of an analysis is the one that the explorer sent.
  show Json.orElse (if chainId = 56 then .int 5 else .null) .null = _
  split <;> rfl

/-- `misnamedSurveyor` reads all names as long as the chain that sends a number is left out. -/
theorem readsNames_misnamed_iff (chainIds : List Int) :
    (misnamedSurveyor chainIds).ReadsNames Sources.plainAddress (some chainIds) ↔
      56 ∉ chainIds := by
  have hslots : (misnamedSurveyor chainIds).HasSlots (Surveyor.targets (some chainIds)) :=
    .inl (show (0 : Int) < 8 by decide)
  rw [Surveyor.ReadsNames, Surveyor.value_visits _ _ _ hslots]
  constructor
  · intro h hmem
    -- On chain 56 the name is a number, and the survey would have to read it.
    obtain ⟨found, hfound, hname⟩ := analysis_misnamed chainIds 56 (by decide)
    rw [if_pos rfl] at hname
    obtain ⟨name, htext⟩ := h _ (List.mem_map_of_mem ((mem_distinct chainIds 56).mpr hmem)) found
      hfound (by rw [hname]; rfl)
    rw [hname] at htext
    cases htext
  · intro hout v hv a ha htruthy
    obtain ⟨id, hid, rfl⟩ := List.mem_map.mp hv
    have hne : id ≠ 56 := fun h => hout (h ▸ (mem_distinct chainIds id).mp hid)
    -- An analysis is found on supported chains only, and this one has no name.
    obtain ⟨o, ho, _⟩ := (Surveyor.analysis_visitOn_iff _ _ _ _).mp ha
    obtain ⟨hsupported, _⟩ := (Surveyor.outcome_visitOn_iff _ _ _ _).mp ho
    obtain ⟨found, hfound, hname⟩ := analysis_misnamed chainIds id hsupported
    obtain rfl : a = found := Option.some.inj (ha.symm.trans hfound)
    rw [hname, if_neg hne] at htruthy
    cases htruthy

/-- The first chain is answered alike in both surveys and its visit comes to the same, but only the
survey that leaves the second chain out `Shows` it. -/
theorem number_for_name_hides_chain : ∃ visit,
    (misnamedSurveyor [1, 56]).visitsTo Sources.plainAddress (some [1, 56]) 1 = [visit] ∧
    (misnamedSurveyor [1]).visitsTo Sources.plainAddress (some [1]) 1 = [visit] ∧
    ¬ (misnamedSurveyor [1, 56]).Shows Sources.plainAddress (some [1, 56]) 1 visit ∧
    (misnamedSurveyor [1]).Shows Sources.plainAddress (some [1]) 1 visit := by
  obtain ⟨visit, hboth, halone, hshownBoth, hshownAlone⟩ := chain_is_isolated
    (Scene.plain (.ok []) 0).analyzer none (misnamed [1, 56]) (misnamed [1]) Sources.plainAddress 1
    (by decide) (by decide) (by decide) (by decide)
    ⟨⟨fun _ => rfl, fun _ => rfl, fun _ _ => rfl, fun _ => rfl, fun _ => rfl⟩, rfl⟩
  refine ⟨visit, hboth, halone, ?_, ?_⟩
  · intro h
    have hout := (readsNames_misnamed_iff [1, 56]).mp (hshownBoth.mp h)
    exact hout (by decide)
  · exact hshownAlone.mpr ((readsNames_misnamed_iff [1]).mpr (by decide))

end Circumstances

end TokenRisk
