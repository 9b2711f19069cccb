import TokenRisk.ForStd.List
import TokenRisk.Proofs.Answers
import TokenRisk.Proofs.Warnings

/-!
# Delays

Code and source are fetched side by side, and then four parts are looked into side by side, one of
them with two questions in a row. Sources that give the same answers after other delays may change
the order in which all this ends, but hardly what it comes to: each lookup hands its answer on, and
the warnings that lookups leave stand in an order of their own. Only parts that fail put their
warnings into a common list as they end. As long as sources answer with texts where texts are
declared, at most one part can fail, and the delays do not show at all.

## Key results

- `Analyzer.failuresInOrder_perm`: the common list tells each failed part once
- `Analyzer.value_parts_alike`: what the parts come to under other delays
- `Analyzer.outcome_under_other_delays`: what the analysis comes to
-/

namespace TokenRisk

/-! ## Other delays -/

/-- The same answer after another delay: a limit runs out on both replies or on neither. -/
structure Reply.IsAlike {α : Type} (limit : Option Binary64) (x y : Reply α) : Prop where
  answer : y.answer = x.answer
  runsOut : Timed.runsOut limit y.delay = Timed.runsOut limit x.delay

/-- Under a limit, `awaitWithin` comes to the same for a reply and its like. -/
theorem Reply.IsAlike.value_awaitWithin {α : Type} {limit : Option Binary64} {x y : Reply α}
    (h : x.IsAlike limit y) (call : Call) (provider : String) :
    (y.awaitWithin call limit provider).value = (x.awaitWithin call limit provider).value := by
  rw [Reply.value_awaitWithin, Reply.value_awaitWithin, h.answer, h.runsOut]

namespace Analyzer

variable (a : Analyzer)

/-- Other sources answer what is asked about an address the same after delays of their own, and the
limit runs out on the same calls. A label is only asked for where a creator was told in time. -/
structure RepliesAlike (sources : Sources) (address : String) (chainId : Int) : Prop where
  code : (a.sources.code address chainId).IsAlike a.callLimit (sources.code address chainId)
  source : (a.sources.source address chainId).IsAlike a.callLimit (sources.source address chainId)
  holders : (a.sources.holders address chainId a.sampleSize).IsAlike a.callLimit
    (sources.holders address chainId a.sampleSize)
  creation : (a.sources.creation address chainId).IsAlike a.callLimit
    (sources.creation address chainId)
  label : ∀ creation creator, a.creationAnswer address chainId = .ok (some creation) →
    creation.creator = .string creator →
    (a.sources.label creator chainId).IsAlike a.callLimit (sources.label creator chainId)

/-! ## Failed parts -/

/-- The parts of an analysis that failed, as `Mishap.ofPart` tells them. -/
def failedParts (contract : Contract) : List Mishap :=
  Mishap.ofPart "Standard detection" (a.standard contract).value ++
    Mishap.ofPart "Ownership analysis" (a.ownership contract).value ++
    Mishap.ofPart "Holder analysis" (a.holders contract.address contract.chainId).value ++
    Mishap.ofPart "Risk detection" (a.findings contract).value

/-- The warnings of the `failedParts`, in the order in which these ended. -/
def failuresInOrder (contract : Contract) : List String :=
  failureWarnings [
    ((a.standard contract).spawned.finish,
      warning "Standard detection" (a.standard contract).value),
    ((a.ownership contract).spawned.finish,
      warning "Ownership analysis" (a.ownership contract).value),
    ((a.holders contract.address contract.chainId).spawned.finish,
      warning "Holder analysis" (a.holders contract.address contract.chainId).value),
    ((a.findings contract).spawned.finish,
      warning "Risk detection" (a.findings contract).value)]

/-- The warnings that `ownership` and `holders` come with. -/
def ownWarnings (contract : Contract) : List String :=
  ((a.ownership contract).value.toOption.getD ({ risks := [Ownership.failedRisk] }, [])).2 ++
    ((a.holders contract.address contract.chainId).value.toOption.getD
      ({ risks := [Holders.failedRisk] }, [])).2

theorem warnings_parts (contract : Contract) :
    (a.parts contract).value.warnings = a.failuresInOrder contract ++ a.ownWarnings contract :=
  List.append_assoc _ _ _

/-- However the parts end, `failuresInOrder` tells each of the `failedParts` once. -/
theorem failuresInOrder_perm (contract : Contract) :
    (a.failuresInOrder contract).Perm ((a.failedParts contract).map Mishap.warning) := by
  apply (failureWarnings_perm _).trans
  simp [failedParts, Mishap.warning_eq]

/-! ## What is answered as declared -/

variable {a}

/-- Under a limit `codeAnswer` and `sourceAnswer` fail for their providers' sake only, so both are
recorded. -/
private theorem isRecorded_of_providers (hproviders : a.sources.FailsByProviders)
    (address : String) (chainId : Int) :
    IsRecorded (a.codeAnswer address chainId) ∧ IsRecorded (a.sourceAnswer address chainId) := by
  constructor
  · intro f hf
    rw [isRecorded, Reply.isProvider_of_awaitWithin _ _ _ _ f (hproviders.code address chainId) hf]
    rfl
  · intro f hf
    rw [isRecorded,
      Reply.isProvider_of_awaitWithin _ _ _ _ f (hproviders.source address chainId) hf]
    rfl

/-- What is `reported` of a field is a text or nothing, if the field is a text or counts as
nothing. -/
private theorem isTextIfAny_reported (field : SourceRecord → Json) (source : Option SourceRecord)
    (hfield : ∀ record, source = some record → (field record).IsTextIfAny) :
    (reported field source).IsTextIfAny := by
  unfold reported Json.orElse
  split
  · cases source with
    | none => exact fun hany => by cases hany
    | some record => exact hfield record rfl
  · exact fun hany => by cases hany

/-- Of the parts that are answered as declared, at most `findings` fails. -/
private theorem length_failedParts_le (htyped : a.sources.AnswersTyped)
    (hproviders : a.sources.FailsByProviders) (address : String) (chainId : Int) :
    (a.failedParts (a.contractOf address chainId)).length ≤ 1 := by
  -- The implementation on record is a text or missing, so `ownership` does not stumble over it.
  have himplementation : (a.contractOf address chainId).implementation.IsTextIfAny := by
    refine isTextIfAny_reported _ _ fun record hrecord => ?_
    cases hanswer : a.sourceAnswer address chainId with
    | error f =>
      rw [hanswer] at hrecord
      cases hrecord
    | ok source =>
      rw [hanswer] at hrecord
      obtain rfl : source = some record := hrecord
      exact (htyped.source address chainId record
        (Reply.answer_of_awaitWithin _ _ _ _ _ hanswer)).implementation
  -- None of the parts that ask somebody fails.
  have hownership := (Mishap.ofPart_eq_nil_iff "Ownership analysis" _).mpr
    (a.ownership_isOk_of_typed _ himplementation htyped hproviders)
  have hholders := (Mishap.ofPart_eq_nil_iff "Holder analysis" _).mpr
    (a.holders_isOk_of_typed (a.contractOf address chainId).address
      (a.contractOf address chainId).chainId htyped hproviders)
  have hstandard : Mishap.ofPart "Standard detection"
      (a.standard (a.contractOf address chainId)).value = [] := rfl
  unfold failedParts
  rw [hstandard, hownership, hholders]
  -- What is left is `findings`, which asks nobody.
  cases (a.findings (a.contractOf address chainId)).value with
  | ok found => exact Nat.zero_le 1
  | error f => exact Nat.le_refl 1

end Analyzer

/-- Two outcomes that tell the same warnings, but those of the failed parts in another order: at
least two parts failed. -/
structure Outcome.IsReordered (failed : List Mishap) (notes : List String) (o o' : Outcome) :
    Prop where
  several : 2 ≤ failed.length
  analysis : { o'.analysis with warnings := o.analysis.warnings } = o.analysis
  tells : ∃ front told told' back, told.Perm (failed.map Mishap.warning) ∧
    told'.Perm (failed.map Mishap.warning) ∧ o.Tells notes (front ++ told ++ back) ∧
      o'.Tells notes (front ++ told' ++ back)

namespace Analyzer

/-! ## Lookups under other delays -/

section

variable {a : Analyzer} {sources : Sources} {address : String} {chainId : Int}
  (h : a.RepliesAlike sources address chainId)

include h

theorem codeAnswer_alike :
    (a.asking sources).codeAnswer address chainId = a.codeAnswer address chainId :=
  h.code.value_awaitWithin _ _

theorem sourceAnswer_alike :
    (a.asking sources).sourceAnswer address chainId = a.sourceAnswer address chainId :=
  h.source.value_awaitWithin _ _

/-- Under other delays `holders` comes to the same. -/
theorem value_holders_alike :
    ((a.asking sources).holders address chainId).value = (a.holders address chainId).value := by
  have hanswer : (a.asking sources).holdersAnswer address chainId =
      a.holdersAnswer address chainId :=
    h.holders.value_awaitWithin _ _
  rw [value_holders, value_holders, hanswer]
  rfl

private theorem value_creatorLabel_alike (creation : Creation)
    (hcreation : a.creationAnswer address chainId = .ok (some creation)) :
    ((a.asking sources).creatorLabel creation.creator chainId).value =
      (a.creatorLabel creation.creator chainId).value := by
  cases hcreator : creation.creator with
  | string creator =>
    unfold creatorLabel
    by_cases hempty : creator.isEmpty = true
    · simp only [hempty, ↓reduceIte]
    · have hanswer : ((a.asking sources).sources.askLabel (a.asking sources).callLimit creator
          chainId).value = (a.sources.askLabel a.callLimit creator chainId).value :=
        (h.label creation creator hcreation hcreator).value_awaitWithin _ _
      simp only [hempty, Bool.false_eq_true, ↓reduceIte, Timed.value_map, hanswer]
  | _ => rfl

end

/-! ## The parts under other delays -/

section

variable {a : Analyzer} {sources : Sources} {contract : Contract}
  (h : a.RepliesAlike sources contract.address contract.chainId)

include h

/-- Under other delays `ownership` comes to the same. -/
theorem value_ownership_alike :
    ((a.asking sources).ownership contract).value = (a.ownership contract).value := by
  have hanswer : (a.asking sources).creationAnswer contract.address contract.chainId =
      a.creationAnswer contract.address contract.chainId :=
    h.creation.value_awaitWithin _ _
  rw [value_ownership, value_ownership, hanswer]
  cases hcreation : a.creationAnswer contract.address contract.chainId with
  | error f => rfl
  | ok creation =>
    cases creation with
    | none => rfl
    | some creation =>
      -- The same creator was told, so the same label is asked for.
      simp only [value_creatorLabel_alike h creation hcreation]

/-- `failedParts` are the same under other delays. -/
theorem failedParts_alike :
    (a.asking sources).failedParts contract = a.failedParts contract := by
  unfold failedParts
  rw [value_ownership_alike h, value_holders_alike h]
  rfl

/-- Under other delays `parts` comes to the same signals, and tells the `failedParts` in whatever
order they ended. -/
theorem value_parts_alike :
    ((a.asking sources).parts contract).value =
      { signals := (a.parts contract).value.signals
        warnings := (a.asking sources).failuresInOrder contract ++ a.ownWarnings contract } := by
  -- Replies that agree are the same to all parts, whenever they come.
  have hsignals : (a.asking sources).signalsOf contract = a.signalsOf contract := by
    unfold signalsOf ownershipOf holdersOf
    rw [value_ownership_alike h, value_holders_alike h]
    rfl
  have hown : (a.asking sources).ownWarnings contract = a.ownWarnings contract := by
    unfold ownWarnings
    rw [value_ownership_alike h, value_holders_alike h]
  have hwarnings := (a.asking sources).warnings_parts contract
  rw [hown] at hwarnings
  rw [← hwarnings, signals_parts, ← hsignals]
  rfl

/-- `failuresInOrder` tells at most one failed part in one way only. -/
private theorem failuresInOrder_alike (hfew : (a.failedParts contract).length ≤ 1) :
    (a.asking sources).failuresInOrder contract = a.failuresInOrder contract := by
  have hperm := (a.asking sources).failuresInOrder_perm contract
  rw [failedParts_alike h] at hperm
  have hlen : ((a.failedParts contract).map Mishap.warning).length ≤ 1 := by
    rwa [List.length_map]
  rw [hperm.eq_of_length_le_one hlen, (a.failuresInOrder_perm contract).eq_of_length_le_one hlen]

end

/-! ## The analysis under other delays -/

/-- Where there is code, `outcomeOf` is the same up to the order in which the `failedParts` are
told, for which there is a choice only if several parts failed. -/
private theorem outcomeOf_alike {a : Analyzer} {sources : Sources} {contract : Contract}
    (h : a.RepliesAlike sources contract.address contract.chainId) (notes lookups : List String) :
    let o := a.outcomeOf contract notes (lookups ++ (a.parts contract).value.warnings)
      (a.parts contract).value.signals
    let o' := (a.asking sources).outcomeOf contract notes
      (lookups ++ ((a.asking sources).parts contract).value.warnings)
      ((a.asking sources).parts contract).value.signals
    o' = o ∨ o.IsReordered (a.failedParts contract) notes o' := by
  rw [value_parts_alike h, warnings_parts]
  -- A single failed part has no order to lose.
  by_cases hfew : (a.failedParts contract).length ≤ 1
  · rw [failuresInOrder_alike h hfew]
    exact .inl rfl
  · -- Both lists tell the same failed parts, each in an order of its own.
    have hperm := (a.asking sources).failuresInOrder_perm contract
    rw [failedParts_alike h] at hperm
    right
    constructor
    case several => omega
    case analysis =>
      rw [analysis_outcomeOf, analysis_outcomeOf]
      rfl
    case tells =>
      refine ⟨lookups, a.failuresInOrder contract, (a.asking sources).failuresInOrder contract,
        a.ownWarnings contract, a.failuresInOrder_perm contract, hperm, ?_, ?_⟩
      · rw [List.append_assoc]
        exact a.tells_outcomeOf _ _ _ _
      · rw [List.append_assoc]
        exact (a.asking sources).tells_outcomeOf _ _ _ _

/-- Under other delays, `analyzeValid` comes to the same up to the order of the parts that
failed. -/
private theorem analyzeValid_alike {a : Analyzer} {sources : Sources} {address : String}
    {chainId : Int} (h : a.RepliesAlike sources address chainId)
    (hproviders : a.sources.FailsByProviders) (notes : List String) :
    ∃ o o', (a.analyzeValid address chainId notes).value = .ok o ∧
      ((a.asking sources).analyzeValid address chainId notes).value = .ok o' ∧
      (o' = o ∨ o.IsReordered (a.failedParts (a.contractOf address chainId)) notes o') := by
  -- No reply is a failure of another kind, so the fetch comes to an end on both sides.
  have hrecorded := isRecorded_of_providers hproviders address chainId
  have hfetch := (a.value_fetch_eq_ok_iff address chainId _).mpr ⟨hrecorded, rfl⟩
  have hfetch' := ((a.asking sources).value_fetch_eq_ok_iff address chainId _).mpr
    ⟨by rwa [codeAnswer_alike h, sourceAnswer_alike h], rfl⟩
  rw [codeAnswer_alike h, sourceAnswer_alike h] at hfetch'
  -- The contract is the same on both sides, and so is the way that the analysis takes.
  unfold analyzeValid
  simp only [Timed.value_bind, hfetch, hfetch']
  rw [show (snapshot address chainId (a.codeAnswer address chainId)
    (a.sourceAnswer address chainId)).contract = a.contractOf address chainId from rfl]
  cases (snapshot address chainId (a.codeAnswer address chainId)
      (a.sourceAnswer address chainId)).codeFailure with
  | some f => exact ⟨_, _, rfl, rfl, .inl rfl⟩
  | none =>
    cases (a.contractOf address chainId).isContract with
    | false => exact ⟨_, _, rfl, rfl, .inl rfl⟩
    | true =>
      have hcontract : a.RepliesAlike sources (a.contractOf address chainId).address
          (a.contractOf address chainId).chainId := h
      exact ⟨_, _, rfl, rfl, outcomeOf_alike hcontract notes _⟩

/-- Sources that give the same answers, or fail the same for their providers' sake, after other
delays do not change what `analyze` comes to for a valid address on a supported chain, up to the
order in which the warnings of failed parts are told. That order can only change where two parts
fail, which does not happen if `AnswersTyped` holds. -/
theorem outcome_under_other_delays (a : Analyzer) (sources : Sources) (address : Option String)
    (chainId : Int) (check : Address.Check)
    (hcheck : Address.check a.scheme address = .ok check) (hvalid : check.isValid = true)
    (hsupported : Chain.isSupported chainId = true)
    (h : a.RepliesAlike sources (Text.lower (address.getD "")) chainId)
    (hproviders : a.sources.FailsByProviders) :
    ∃ o o', (a.analyze address chainId).value = .ok o ∧
      ((a.asking sources).analyze address chainId).value = .ok o' ∧
      (o' = o ∨ o.IsReordered
        (a.failedParts (a.contractOf (Text.lower (address.getD "")) chainId)) check.warnings o') ∧
      (a.sources.AnswersTyped → o' = o) := by
  obtain ⟨o, o', ho, ho', halike⟩ := analyzeValid_alike h hproviders check.warnings
  have hvalue := a.value_analyze_of_check address chainId check hcheck
  have hvalue' := (a.asking sources).value_analyze_of_check address chainId check hcheck
  rw [if_pos hvalid, if_pos hsupported, ho] at hvalue
  rw [if_pos hvalid, if_pos hsupported, ho'] at hvalue'
  refine ⟨o, o', hvalue, hvalue', halike, fun htyped => ?_⟩
  rcases halike with hsame | hreordered
  · exact hsame
  · -- An order to choose takes two failed parts, and there is at most one.
    have hfew := length_failedParts_le htyped hproviders (Text.lower (address.getD "")) chainId
    have hseveral := hreordered.several
    omega

/-- However long the explorer takes to tell its creation, `analyze` comes to the same on the plain
token. -/
theorem outcome_of_plain_delayed :
    let creation (address : String) (chainId : Int) : Reply (Option Creation) :=
      { (Sources.plain (.ok [])).creation address chainId with delay := 20 }
    ∃ o, ((Scene.plain (.ok []) 0).analyzer.analyze (some Sources.plainAddress) 1).value = .ok o ∧
      (((Scene.plain (.ok []) 0).analyzer.asking
        { Sources.plain (.ok []) with creation }).analyze (some Sources.plainAddress) 1).value =
          .ok o := by
  intro creation
  -- Only the delay of the creation differs.
  have halike (address : String) : (Scene.plain (.ok []) 0).analyzer.RepliesAlike
      { Sources.plain (.ok []) with creation } address 1 := by
    constructor
    all_goals intros; exact ⟨rfl, rfl⟩
  -- Nothing is refused.
  have hproviders : (Sources.plain (.ok [])).FailsByProviders := by
    constructor
    all_goals intros; rename_i hanswer; cases hanswer
  -- And all that is answered has its type.
  have htyped : (Sources.plain (.ok [])).AnswersTyped := by
    have hnull : Json.null.IsTextIfAny := fun hany => by cases hany
    constructor
    case source =>
      intro _ _ record hrecord
      cases hrecord
      exact ⟨hnull, hnull⟩
    case holders =>
      intro _ _ _ l hl x hx
      cases hl
      cases hx
    case creation =>
      intro _ _ record hrecord
      cases hrecord
      exact ⟨fun _ => ⟨_, rfl⟩, hnull⟩
    case label =>
      intro _ _ label hlabel
      cases hlabel
      exact hnull
  -- The replies are typed, so the outcome is the same and not only reordered.
  obtain ⟨o, o', ho, ho', _, hsame⟩ := outcome_under_other_delays (Scene.plain (.ok []) 0).analyzer
    { Sources.plain (.ok []) with creation } (some Sources.plainAddress) 1
    { address := Sources.plainAddress, isValid := true,
      warnings := ["Address is not checksummed"] } rfl rfl (by decide) (halike _) hproviders
  exact ⟨o, ho, hsame htyped ▸ ho'⟩

/-! ## Two parts that fail -/

end Analyzer

/-- What is answered about a token for which the explorer reports a number where the address of an
implementation should be, and another where that of a holder should be. It takes its time to tell
the creation. -/
def Sources.garbledTwice (delay : Rat) : Sources :=
  { Sources.plain (.ok [⟨.int 5, .ofInt 6⟩]) with
    source := fun _ _ =>
      { answer := .ok (some { code := "contract Safe {}", implementation := .int 5 }) }
    creation := fun address _ =>
      { delay
        answer := .ok (some { contractAddress := address, creator := .string plainAddress }) } }

namespace Analyzer

/-- The analyzer that asks `Sources.garbledTwice`. -/
def garbledTwice (delay : Rat) : Analyzer :=
  (Scene.plain (.ok []) 0).analyzer.asking (.garbledTwice delay)

/-- The contract of the garbled token. -/
private abbrev garbledContract : Contract :=
  (garbledTwice 0).contractOf Sources.plainAddress 1

private theorem repliesAlike_garbledTwice (delay : Rat) (address : String) (chainId : Int) :
    (garbledTwice 0).RepliesAlike (.garbledTwice delay) address chainId := by
  constructor
  all_goals intros; exact ⟨rfl, rfl⟩

private theorem value_ownership_garbledTwice (delay : Rat) :
    ((garbledTwice delay).ownership garbledContract).value =
      .error (.fault .attribute "'int' object has no attribute 'lower'") := by
  rw [show garbledTwice delay = (garbledTwice 0).asking (.garbledTwice delay) from rfl,
    value_ownership_alike (repliesAlike_garbledTwice delay _ _)]
  rfl

private theorem value_holders_garbledTwice (delay : Rat) :
    ((garbledTwice delay).holders Sources.plainAddress 1).value =
      .error (.fault .attribute "'int' object has no attribute 'lower'") := by
  -- A list of one holder is in order.
  have hranked : Holders.ranked [⟨.int 5, .ofInt 6⟩] = [⟨.int 5, .ofInt 6⟩] :=
    List.perm_singleton.mp (Holders.ranked_perm _)
  have hsummary : Holders.summarize {} [⟨.int 5, .ofInt 6⟩] =
      .error (.fault .attribute "'int' object has no attribute 'lower'") := by
    unfold Holders.summarize
    rw [hranked]
    simp only [Ownership.loweredText, bind, Except.bind]
    rfl
  have hanswer : (garbledTwice delay).holdersAnswer Sources.plainAddress 1 =
      .ok [⟨.int 5, .ofInt 6⟩] := rfl
  rw [value_holders, hanswer]
  show (Holders.summarize {} [⟨.int 5, .ofInt 6⟩]).map (·, []) = _
  rw [hsummary]
  rfl

/-- `ownership` ends with the creation, the other parts at once. -/
private theorem failuresInOrder_garbledTwice (delay : Rat) :
    (garbledTwice delay).failuresInOrder garbledContract = failureWarnings [
      (.rounds 1, []),
      ((Instant.rounds 1).after (.ofWait delay),
        ["Ownership analysis failed: 'int' object has no attribute 'lower'"]),
      (.rounds 1, ["Holder analysis failed: 'int' object has no attribute 'lower'"]),
      (.rounds 1, [])] := by
  -- `ownership` waits for the record, so its failure comes when the record does.
  have hfinish : ((garbledTwice delay).ownership garbledContract).spawned.finish =
      (Instant.rounds 1).after (.ofWait delay) := by
    show (Instant.rounds 1).after ((Instant.ofWait delay).after Instant.zero) = _
    rw [Instant.after_zero]
  -- Both failures are those of a number in the place of a text.
  have hownership : warning "Ownership analysis"
      ((garbledTwice delay).ownership garbledContract).value =
        ["Ownership analysis failed: 'int' object has no attribute 'lower'"] := by
    rw [value_ownership_garbledTwice]
    decide +kernel
  have hholders : warning "Holder analysis"
      ((garbledTwice delay).holders garbledContract.address garbledContract.chainId).value =
        ["Holder analysis failed: 'int' object has no attribute 'lower'"] := by
    rw [show garbledContract.address = Sources.plainAddress from rfl,
      show garbledContract.chainId = 1 from rfl, value_holders_garbledTwice]
    decide +kernel
  unfold failuresInOrder
  rw [hfinish, hownership, hholders]
  rfl

private theorem tells_garbledTwice (delay : Rat) (told : List String)
    (htold : (garbledTwice delay).failuresInOrder garbledContract = told) :
    ∃ o, ((garbledTwice delay).analyze (some Sources.plainAddress) 1).value = .ok o ∧
      o.Tells ["Address is not checksummed"] told := by
  have hlower : Text.lower Sources.plainAddress = Sources.plainAddress := by decide +kernel
  have hcoded : (garbledTwice delay).HasCode Sources.plainAddress 1 :=
    ⟨⟨"0x6080", rfl, by decide +kernel⟩, fun f hf => by cases hf⟩
  -- Neither of the failed parts has warnings of its own to tell.
  have hown : (garbledTwice delay).ownWarnings garbledContract = [] := by
    unfold ownWarnings
    rw [value_ownership_garbledTwice, show garbledContract.address = Sources.plainAddress from rfl,
      show garbledContract.chainId = 1 from rfl, value_holders_garbledTwice]
    rfl
  have hwarnings : (garbledTwice delay).warningsOf Sources.plainAddress 1 = told := by
    have hparts := (garbledTwice delay).warnings_parts garbledContract
    rw [hown, List.append_nil, htold] at hparts
    -- The contract that is found does not depend on the delay.
    have hcontract : (garbledTwice delay).contractOf Sources.plainAddress 1 = garbledContract :=
      rfl
    have hlookups : (snapshot Sources.plainAddress 1
        ((garbledTwice delay).codeAnswer Sources.plainAddress 1)
        ((garbledTwice delay).sourceAnswer Sources.plainAddress 1)).warnings = [] := rfl
    unfold warningsOf
    rw [hcontract, hlookups, List.nil_append, hparts]
  have hvalue := (garbledTwice delay).value_analyze_of_check (some Sources.plainAddress) 1
    { address := Sources.plainAddress, isValid := true,
      warnings := ["Address is not checksummed"] } rfl
  rw [if_pos rfl, if_pos (by decide), Option.getD_some, hlower,
    (garbledTwice delay).value_analyzeValid_eq _ _ _ hcoded, hwarnings] at hvalue
  exact ⟨_, hvalue, (garbledTwice delay).tells_outcomeOf _ _ _ _⟩

/-- `ownership` and `holders` fail, and are told in the order in which they end. -/
theorem told_order_depends_on_delays :
    (garbledTwice 0).RepliesAlike (.garbledTwice 20) (Text.lower Sources.plainAddress) 1 ∧
      (garbledTwice 0).sources.FailsByProviders ∧
      (∃ check, Address.check (garbledTwice 0).scheme (some Sources.plainAddress) = .ok check ∧
        check.isValid = true) ∧ Chain.isSupported 1 = true ∧
      ∃ o o', ((garbledTwice 0).analyze (some Sources.plainAddress) 1).value = .ok o ∧
        (((garbledTwice 0).asking (.garbledTwice 20)).analyze
          (some Sources.plainAddress) 1).value = .ok o' ∧ o' ≠ o ∧
        o.Tells ["Address is not checksummed"]
          ["Ownership analysis failed: 'int' object has no attribute 'lower'",
            "Holder analysis failed: 'int' object has no attribute 'lower'"] ∧
        o'.Tells ["Address is not checksummed"]
          ["Holder analysis failed: 'int' object has no attribute 'lower'",
            "Ownership analysis failed: 'int' object has no attribute 'lower'"] := by
  have hproviders : (garbledTwice 0).sources.FailsByProviders := by
    constructor
    all_goals intros; rename_i hanswer; cases hanswer
  -- Without a delay both end in one round, and the order is that of the parts.
  have hprompt : (garbledTwice 0).failuresInOrder garbledContract =
      ["Ownership analysis failed: 'int' object has no attribute 'lower'",
        "Holder analysis failed: 'int' object has no attribute 'lower'"] := by
    rw [failuresInOrder_garbledTwice]
    simp [failureWarnings, List.mergeSort, List.MergeSort.Internal.splitInTwo, Instant.after,
      Instant.ofWait, Instant.ble, Instant.rounds, Instant.zero]
  -- With one the time decides.
  have hlate : (garbledTwice 20).failuresInOrder garbledContract =
      ["Holder analysis failed: 'int' object has no attribute 'lower'",
        "Ownership analysis failed: 'int' object has no attribute 'lower'"] := by
    have hne : (20 : Rat) ≠ 0 := by decide +kernel
    have hneg : ¬ (20 : Rat) < 0 := by decide +kernel
    have hpos : (0 : Rat) < 20 := by decide +kernel
    have hfinish : (Instant.rounds 1).after (.ofWait 20) = ⟨20, 1⟩ := by
      rw [Instant.ofWait, if_neg hne, if_neg hneg, Instant.after, if_neg hne]
      exact congrArg (Instant.mk · 1) (Rat.zero_add 20)
    rw [failuresInOrder_garbledTwice, hfinish]
    simp [failureWarnings, List.mergeSort, List.MergeSort.Internal.splitInTwo, Instant.ble,
      Instant.rounds, hneg, hpos]
  obtain ⟨o, ho, htells⟩ := tells_garbledTwice 0 _ hprompt
  obtain ⟨o', ho', htells'⟩ := tells_garbledTwice 20 _ hlate
  refine ⟨repliesAlike_garbledTwice 20 _ _, hproviders, ⟨_, rfl, rfl⟩, by decide, o, o', ho, ho',
    ?_, htells, htells'⟩
  rintro rfl
  -- The two outcomes tell different lists, so they differ.
  exact absurd (htells.warnings.symm.trans htells'.warnings) (by decide +kernel)

end Analyzer

end TokenRisk
