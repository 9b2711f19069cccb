import TokenRisk.Analyzer
import TokenRisk.Proofs.Score
import TokenRisk.Proofs.Timed

/-!
# What an analysis rests on

An analysis takes time, but its outcome follows from the answers that its calls come to in time.
This file names these answers and describes the outcome by them.

## Key results

- `value_fetch_eq_ok_iff`: the snapshot is that of the two answers, if neither failed in an
  unplanned way
- `signals_parts`: the signals are those of the contract and the answers about it
- `analyze_cases`: an outcome is a placeholder, or there was code and it is that of the signals
- `analyze_of_hasCode`: where there is code, the analysis of a valid address comes to the latter
-/

namespace TokenRisk

/-- Whether the analysis could not run. -/
def Outcome.isFailed : Outcome → Bool
  | .failed .. => true
  | _ => false

namespace Analyzer

variable (a : Analyzer)

/-! ## Answers -/

/-- The code of an address as answered in time, or why there is none. -/
def codeAnswer (address : String) (chainId : Int) : Except Failure String :=
  (a.sources.askCode a.callLimit address chainId).value

/-- The verified source of an address as answered in time. -/
def sourceAnswer (address : String) (chainId : Int) : Except Failure (Option SourceRecord) :=
  (a.sources.askSource a.callLimit address chainId).value

/-- The largest holders as answered in time. -/
def holdersAnswer (address : String) (chainId : Int) : Except Failure (List Holder) :=
  (a.sources.askHolders a.callLimit address chainId a.sampleSize).value

/-- The record of a contract's creation as answered in time. -/
def creationAnswer (address : String) (chainId : Int) : Except Failure (Option Creation) :=
  (a.sources.askCreation a.callLimit address chainId).value

/-- The label of an address as answered in time. -/
def labelAnswer (address : String) (chainId : Int) : Except Failure Json :=
  (a.sources.askLabel a.callLimit address chainId).value

/-- A reply that was had in time was asked for: work that is late comes to its `expired` value. -/
private theorem asked_awaitWithin {α : Type} (reply : Reply α) (call : Call)
    (limit : Option Binary64) (provider : String) (x : α)
    (h : (reply.awaitWithin call limit provider).value = .ok x) :
    (reply.awaitWithin call limit provider).asked = [call] := by
  simp only [Reply.awaitWithin] at h ⊢
  cases Timed.within_cases limit (.error (.provider provider (.timeout limit)))
      (reply.await call) with
  | inl hexpired => rw [hexpired] at h; cases h
  | inr hkept => exact hkept.2

theorem asked_askCode (address : String) (chainId : Int) (code : String)
    (h : a.codeAnswer address chainId = .ok code) :
    (a.sources.askCode a.callLimit address chainId).asked = [.code address chainId] :=
  asked_awaitWithin _ _ _ _ code h

theorem asked_askSource (address : String) (chainId : Int) (source : Option SourceRecord)
    (h : a.sourceAnswer address chainId = .ok source) :
    (a.sources.askSource a.callLimit address chainId).asked = [.source address chainId] :=
  asked_awaitWithin _ _ _ _ source h

/-! ## Fetching -/

/-- A lookup was answered, or failed in a way that `isRecorded`. -/
def IsRecorded {α : Type} (x : Except Failure α) : Prop :=
  ∀ f, x = .error f → isRecorded f = true

/-- An answered lookup `IsRecorded`. -/
theorem isRecorded_ok {α : Type} (x : α) : IsRecorded (.ok x) := by
  intro f h
  cases h

private theorem recorded_eq_ok_iff {α : Type} (x y : Except Failure α) :
    recorded x = .ok y ↔ IsRecorded x ∧ y = x := by
  cases x with
  | ok x => simp [recorded, isRecorded_ok, eq_comm]
  | error f =>
    simp only [recorded, IsRecorded, Except.error.injEq, forall_eq']
    split
    · rename_i h
      simp [h, eq_comm]
    · rename_i h
      simp [h]

/-- `fetch` comes to the `snapshot` of the two answers, and to no other, if both are recorded. -/
theorem value_fetch_eq_ok_iff (address : String) (chainId : Int) (fetched : Fetched) :
    (a.fetch address chainId).value = .ok fetched ↔
      (IsRecorded (a.codeAnswer address chainId) ∧ IsRecorded (a.sourceAnswer address chainId)) ∧
        fetched = snapshot address chainId (a.codeAnswer address chainId)
          (a.sourceAnswer address chainId) := by
  simp only [fetch, Timed.value_map]
  constructor
  · intro h
    split at h
    · cases h
    · rename_i code source hboth
      -- Both lookups have come to a value, which a recorded failure is, too.
      rw [Timed.value_both_eq_ok] at hboth
      simp only [Timed.value_map, recorded_eq_ok_iff] at hboth
      obtain ⟨⟨hcode, rfl⟩, hsource, rfl⟩ := hboth
      exact ⟨⟨hcode, hsource⟩, (Except.ok.inj h).symm⟩
  · rintro ⟨⟨hcode, hsource⟩, rfl⟩
    have hboth := (Timed.value_both_eq_ok
      ((a.sources.askCode a.callLimit address chainId).map recorded)
      ((a.sources.askSource a.callLimit address chainId).map recorded) _ _).mpr
      ⟨(recorded_eq_ok_iff _ _).mpr ⟨hcode, rfl⟩, (recorded_eq_ok_iff _ _).mpr ⟨hsource, rfl⟩⟩
    rw [hboth]
    rfl

/-- There is code at an address, and its source was looked up without an unplanned failure. -/
structure HasCode (address : String) (chainId : Int) : Prop where
  code : ∃ code, a.codeAnswer address chainId = .ok code ∧ Bytecode.digits code ≠ ""
  source : IsRecorded (a.sourceAnswer address chainId)

/-- The contract that the answers for code and source make up. -/
def contractOf (address : String) (chainId : Int) : Contract :=
  (snapshot address chainId (a.codeAnswer address chainId)
    (a.sourceAnswer address chainId)).contract

/-- A `snapshot` without a failure shows a contract exactly when there is code. -/
theorem isContract_snapshot_iff (address : String) (chainId : Int) (code : Except Failure String)
    (source : Except Failure (Option SourceRecord)) :
    (snapshot address chainId code source).codeFailure = none ∧
        (snapshot address chainId code source).contract.isContract = true ↔
      ∃ s, code = .ok s ∧ Bytecode.digits s ≠ "" := by
  cases code with
  | error f => simp [snapshot]
  | ok s =>
    by_cases hs : s = ""
    · subst hs
      have hzero : Bytecode.digits "0x" = "" := by decide +kernel
      have hempty : Bytecode.digits "" = "" := by decide +kernel
      simp [snapshot, hzero, hempty]
    · simp [snapshot, hs]

/-- The source of a `snapshot` is the non-empty text of the record that was answered. -/
theorem sourceCode_snapshot (address : String) (chainId : Int) (code : Except Failure String)
    (source : Except Failure (Option SourceRecord)) (text : String)
    (h : (snapshot address chainId code source).contract.sourceCode = some text) :
    ∃ record, source = .ok (some record) ∧ record.code = text ∧ text ≠ "" := by
  simp only [snapshot, Option.filter_eq_some_iff, Option.map_eq_some_iff] at h
  obtain ⟨⟨record, hrecord, rfl⟩, htext⟩ := h
  refine ⟨record, ?_, rfl, by simpa using htext⟩
  cases source with
  | error f => cases hrecord
  | ok source => exact congrArg Except.ok hrecord

/-! ## Parts -/

/-- What `Ownership.assess` says of a contract, or the cautious default. -/
def ownershipOf (contract : Contract) : Ownership :=
  ((a.ownership contract).value.toOption.getD ({ risks := [Ownership.failedRisk] }, [])).1

/-- The holders of a token by `Holders.summarize`, or the cautious default. -/
def holdersOf (address : String) (chainId : Int) : Holders :=
  ((a.holders address chainId).value.toOption.getD ({ risks := [Holders.failedRisk] }, [])).1

/-- The capabilities of a contract by `Findings.detect`, or the cautious default. -/
def findingsOf (contract : Contract) : Findings :=
  (Findings.detect a.detectors contract).toOption.getD
    { unverifiedCode := true, risks := [Findings.failedRisk], riskCount := 1 }

/-- The signals of a contract, each part by itself. -/
def signalsOf (contract : Contract) : Signals where
  standard := Standard.ofBytecode a.profile contract.bytecode
  ownership := a.ownershipOf contract
  holders := a.holdersOf contract.address contract.chainId
  findings := a.findingsOf contract

/-- The signals of `parts` are those of the contract. -/
theorem signals_parts (contract : Contract) :
    (a.parts contract).value.signals = a.signalsOf contract := rfl

/-- `holdersOf`, too, has at most one remark on holdings unless they are concentrated. -/
theorem length_risks_holdersOf (address : String) (chainId : Int)
    (hspread : (a.holdersOf address chainId).isConcentrated = false) :
    (a.holdersOf address chainId).risks.length ≤ 1 := by
  simp only [holdersOf] at hspread ⊢
  cases hvalue : (a.holders address chainId).value with
  | error f => exact Nat.le_refl 1
  | ok x =>
    rw [hvalue] at hspread
    simp only [holders, Timed.value_map] at hvalue
    -- A failed lookup of holders leaves a summary with one risk.
    split at hvalue
    · split at hvalue
      · rw [← Except.ok.inj hvalue]
        exact Nat.le_refl 1
      · cases hvalue
    · -- Of holders that are not concentrated, a summary has at most the risk of their number.
      obtain ⟨h, hsummary, rfl⟩ := Except.map_eq_ok_iff.mp hvalue
      exact Holders.length_risks_summarize _ _ h hsummary hspread

/-- Source counts as verified in `findingsOf` only where there is some. -/
theorem hasSource_of_verified (contract : Contract)
    (h : (a.findingsOf contract).unverifiedCode = false) : contract.hasSource = true := by
  simp only [findingsOf, Findings.detect, bind, Except.bind] at h
  cases hsource : contract.hasSource with
  | true => rfl
  | false =>
    exfalso
    simp only [hsource, Bool.not_false, ↓reduceIte] at h
    cases hhits : Detector.hits contract a.detectors.bytecode with
    | error f => simp [hhits, Except.toOption] at h
    | ok hits =>
      simp only [hhits] at h
      split at h <;> simp [Except.toOption, Findings.ofHits, pure, Except.pure] at h

/-! ## Outcomes -/

/-- The `Analysis` of a contract with given signals. -/
def analysisOf (contract : Contract) (notes warnings : List String) (signals : Signals) :
    Analysis where
  tokenAddress := contract.address
  chainId := contract.chainId
  timestamp := a.now
  isContract := contract.isContract
  signals := signals
  score := signals.score {}
  level := Level.ofScore (signals.score {})
  recommendations := signals.advice (Level.ofScore (signals.score {}))
  warnings := notes ++ warnings
  contractName := contract.name

@[simp] theorem analysis_outcomeOf (contract : Contract) (notes warnings : List String)
    (signals : Signals) :
    (a.outcomeOf contract notes warnings signals).analysis =
      a.analysisOf contract notes warnings signals := by
  simp only [outcomeOf]
  split <;> rfl

@[simp] theorem isFailed_outcomeOf (contract : Contract) (notes warnings : List String)
    (signals : Signals) : (a.outcomeOf contract notes warnings signals).isFailed = false := by
  simp only [outcomeOf]
  split <;> rfl

@[simp] theorem isSettled_outcomeOf (contract : Contract) (notes warnings : List String)
    (signals : Signals) : (a.outcomeOf contract notes warnings signals).isSettled = true := by
  simp only [outcomeOf]
  split <;> rfl

@[simp] theorem isFailed_failure (address : String) (chainId : Int) (f : Failure)
    (warnings : List String) (advice : String) :
    (a.failure address chainId f warnings advice).isFailed = true := rfl

/-- The `failure` of an analysis is never at the lowest level. -/
theorem level_failure (address : String) (chainId : Int) (f : Failure)
    (warnings : List String) (advice : String) :
    (a.failure address chainId f warnings advice).analysis.level = .critical := rfl

/-- The warnings of the analysis of an address with code: those about its code and source, then
those of the `parts`. -/
def warningsOf (address : String) (chainId : Int) : List String :=
  (snapshot address chainId (a.codeAnswer address chainId)
    (a.sourceAnswer address chainId)).warnings ++
    (a.parts (a.contractOf address chainId)).value.warnings

/-- Where there is code, `analyzeValid` comes to the outcome of the signals, with `warningsOf` the
address. -/
theorem value_analyzeValid_eq (address : String) (chainId : Int) (notes : List String)
    (h : a.HasCode address chainId) :
    (a.analyzeValid address chainId notes).value =
      .ok (a.outcomeOf (a.contractOf address chainId) notes (a.warningsOf address chainId)
        (a.signalsOf (a.contractOf address chainId))) := by
  obtain ⟨⟨code, hcode, hdigits⟩, hsource⟩ := h
  have hfetch := (a.value_fetch_eq_ok_iff address chainId _).mpr
    ⟨⟨by rw [hcode]; exact isRecorded_ok code, hsource⟩, rfl⟩
  obtain ⟨hnone, hcontract⟩ := (isContract_snapshot_iff address chainId
    (a.codeAnswer address chainId) (a.sourceAnswer address chainId)).mpr ⟨code, hcode, hdigits⟩
  simp only [analyzeValid, Timed.value_bind, hfetch, hnone, hcontract, Bool.not_true,
    Bool.false_eq_true, ↓reduceIte, Timed.value_map, signals_parts]
  rfl

/-- Where there is code, `analyzeValid` comes to the outcome of the signals. -/
theorem value_analyzeValid_of_hasCode (address : String) (chainId : Int) (notes : List String)
    (h : a.HasCode address chainId) :
    ∃ warnings, (a.analyzeValid address chainId notes).value =
      .ok (a.outcomeOf (a.contractOf address chainId) notes warnings
        (a.signalsOf (a.contractOf address chainId))) :=
  ⟨_, a.value_analyzeValid_eq address chainId notes h⟩

/-- Where there is no code, `analyzeValid` fails or comes to a placeholder. -/
theorem value_analyzeValid_of_not_hasCode (address : String) (chainId : Int)
    (notes : List String) (h : ¬ a.HasCode address chainId) :
    (∃ f, (a.analyzeValid address chainId notes).value = .error f) ∨
      ∃ f warnings advice, (a.analyzeValid address chainId notes).value =
        .ok (a.failure address chainId f warnings advice) := by
  simp only [analyzeValid, Timed.value_bind]
  cases hfetch : (a.fetch address chainId).value with
  | error f => exact .inl ⟨f, rfl⟩
  | ok fetched =>
    right
    obtain ⟨⟨_, hsource⟩, rfl⟩ := (a.value_fetch_eq_ok_iff address chainId fetched).mp hfetch
    cases hfailure : (snapshot address chainId (a.codeAnswer address chainId)
        (a.sourceAnswer address chainId)).codeFailure with
    -- The code was not answered.
    | some f => exact ⟨f, _, _, by simp only [hfailure]; rfl⟩
    | none =>
      -- It was, and is empty.
      have hcontract : (snapshot address chainId (a.codeAnswer address chainId)
          (a.sourceAnswer address chainId)).contract.isContract = false := by
        rw [Bool.eq_false_iff]
        intro hcontract
        exact h ⟨(isContract_snapshot_iff ..).mp ⟨hfailure, hcontract⟩, hsource⟩
      exact ⟨.notAContract, _, _, by simp only [hfailure, hcontract]; rfl⟩

/-- `Address.check` keeps the text of the address. -/
theorem address_check (scheme : Address.Scheme) (address : Option String) (check : Address.Check)
    (h : Address.check scheme address = .ok check) : check.address = address.getD "" := by
  simp only [Address.check] at h
  split at h
  · rename_i hempty
    rw [hempty, ← Except.ok.inj h]
  · split at h
    · rw [← Except.ok.inj h]
    · split at h
      · rw [← Except.ok.inj h]
      · obtain ⟨expected, _, hcheck⟩ := Except.map_eq_ok_iff.mp h
        split at hcheck <;> rw [← hcheck]

/-- What passes `Address.check` is an address, and every address passes that is checked to the
end. -/
theorem isValid_check (scheme : Address.Scheme) (address : Option String) (check : Address.Check)
    (h : Address.check scheme address = .ok check) :
    check.isValid = Address.isAddress (address.getD "") := by
  simp only [Address.check] at h
  split at h
  · rename_i hempty
    rw [hempty, ← Except.ok.inj h]
    rfl
  · split at h
    · rename_i hno
      rw [← Except.ok.inj h]
      simpa using hno.symm
    · rename_i hyes
      have haddress : Address.isAddress (address.getD "") = true := by simpa using hyes
      rw [haddress]
      -- Of an address only the letters may be found fault with, and that is a warning.
      split at h
      · rw [← Except.ok.inj h]
      · obtain ⟨expected, _, hcheck⟩ := Except.map_eq_ok_iff.mp h
        split at hcheck <;> rw [← hcheck]

/-- What `analyze` comes to once the address is checked. -/
theorem value_analyze_of_check (address : Option String) (chainId : Int) (check : Address.Check)
    (hcheck : Address.check a.scheme address = .ok check) :
    (a.analyze address chainId).value = .ok
      (if check.isValid then
        if Chain.isSupported chainId then
          a.orUnexpected (Text.lower (address.getD "")) chainId
            (a.analyzeValid (Text.lower (address.getD "")) chainId check.warnings).value
        else a.failure (Text.lower (address.getD "")) chainId .unsupportedChain []
          Analysis.failedAdvice
      else a.failure (address.getD "") chainId (.invalidAddress address check.errors)
        check.warnings Analysis.failedAdvice) := by
  -- The check keeps the address, so both branches go on with its text.
  have haddress := address_check a.scheme address check hcheck
  simp only [analyze, hcheck, Address.Check.normalized?, haddress]
  cases check.isValid with
  | false => rfl
  | true => cases Chain.isSupported chainId <;> rfl

/-- What `analyze` comes to is a placeholder, or the address is valid, there is code on a supported
chain, and it is the outcome of the signals. -/
theorem analyze_cases (address : Option String) (chainId : Int) (o : Outcome)
    (h : (a.analyze address chainId).value = .ok o) :
    (∃ text f warnings advice, o = a.failure text chainId f warnings advice) ∨
      ∃ check, Address.check a.scheme address = .ok check ∧ check.isValid = true ∧
        Chain.isSupported chainId = true ∧ a.HasCode (Text.lower (address.getD "")) chainId ∧
        ∃ warnings, o = a.outcomeOf (a.contractOf (Text.lower (address.getD "")) chainId)
          check.warnings warnings
          (a.signalsOf (a.contractOf (Text.lower (address.getD "")) chainId)) := by
  cases hcheck : Address.check a.scheme address with
  | error f => simp [analyze, hcheck] at h
  | ok check =>
    rw [a.value_analyze_of_check address chainId check hcheck] at h
    obtain rfl := Except.ok.inj h
    cases hvalid : check.isValid with
    -- The address is none.
    | false => exact .inl ⟨_, _, _, _, rfl⟩
    | true =>
      cases hsupported : Chain.isSupported chainId with
      -- The chain is not supported.
      | false => exact .inl ⟨_, _, _, _, rfl⟩
      | true =>
        rw [if_pos rfl, if_pos rfl]
        by_cases hcode : a.HasCode (Text.lower (address.getD "")) chainId
        · obtain ⟨warnings, hvalue⟩ :=
            a.value_analyzeValid_of_hasCode _ chainId check.warnings hcode
          exact .inr ⟨check, rfl, hvalid, rfl, hcode, warnings, by rw [hvalue]; rfl⟩
        -- There is no code, and whichever way it is missing, a placeholder stands in.
        · left
          cases a.value_analyzeValid_of_not_hasCode _ chainId check.warnings hcode with
          | inl hfailed =>
            obtain ⟨f, hvalue⟩ := hfailed
            exact ⟨_, _, _, _, by rw [hvalue]; rfl⟩
          | inr hplaceholder =>
            obtain ⟨f, warnings, advice, hvalue⟩ := hplaceholder
            exact ⟨_, _, _, _, by rw [hvalue]; rfl⟩

/-- The failure that `analyzeValid` comes to is the provider's, or says that there is no such chain
or no code. -/
private theorem failure_of_analyzeValid (address : String) (chainId : Int) (notes : List String)
    (x : Analysis) (f : Failure)
    (h : (a.analyzeValid address chainId notes).value = .ok (.failed x f)) :
    f.isProvider = true ∨ f = .unsupportedChain ∨ f = .notAContract := by
  simp only [analyzeValid, Timed.value_bind] at h
  cases hfetch : (a.fetch address chainId).value with
  | error g =>
    rw [hfetch] at h
    cases h
  | ok fetched =>
    obtain ⟨⟨hcode, _⟩, rfl⟩ := (a.value_fetch_eq_ok_iff address chainId fetched).mp hfetch
    simp only [hfetch] at h
    split at h
    · -- There is no code, and the failure is the one that was recorded.
      rename_i g hfailure
      rw [← (Outcome.failed.inj (Except.ok.inj h)).2]
      cases hanswer : a.codeAnswer address chainId with
      | ok s =>
        rw [hanswer] at hfailure
        cases hfailure
      | error g' =>
        rw [hanswer] at hfailure
        rw [← Option.some.inj hfailure]
        have hrecorded := hcode g' hanswer
        simp only [isRecorded, Bool.or_eq_true, beq_iff_eq] at hrecorded
        exact hrecorded.imp_right .inl
    · split at h
      -- There is nothing at the address.
      · exact .inr (.inr (Outcome.failed.inj (Except.ok.inj h)).2.symm)
      -- There is code, so this is no placeholder.
      · have hfailed := congrArg Outcome.isFailed (Except.ok.inj h)
        rw [isFailed_outcomeOf] at hfailed
        cases hfailed

/-- Why `analyze` came to a placeholder: the address is invalid, the chain is not supported, there
is no contract, a provider failed, or something unplanned happened. -/
theorem failure_of_analyze (address : Option String) (chainId : Int) (x : Analysis) (f : Failure)
    (h : (a.analyze address chainId).value = .ok (.failed x f)) :
    (∃ errors, f = .invalidAddress address errors) ∨ f = .unsupportedChain ∨ f = .notAContract ∨
      f.isProvider = true ∨ ∃ g : Failure, f = .unexpected g.description := by
  cases hcheck : Address.check a.scheme address with
  | error g => simp [analyze, hcheck] at h
  | ok check =>
    -- A failure is that of the check, of the chain, or of the analysis behind them.
    rw [a.value_analyze_of_check address chainId check hcheck] at h
    split at h
    · split at h
      · cases hvalue : (a.analyzeValid (Text.lower (address.getD "")) chainId
            check.warnings).value with
        -- What was not planned for is reported as unexpected.
        | error g =>
          rw [hvalue] at h
          exact .inr (.inr (.inr (.inr ⟨g, (Outcome.failed.inj (Except.ok.inj h)).2.symm⟩)))
        | ok o =>
          rw [hvalue] at h
          obtain rfl : o = .failed x f := Except.ok.inj h
          rcases a.failure_of_analyzeValid _ _ _ x f hvalue with hf | hf | hf
          · exact .inr (.inr (.inr (.inl hf)))
          · exact .inr (.inl hf)
          · exact .inr (.inr (.inl hf))
      · exact .inr (.inl (Outcome.failed.inj (Except.ok.inj h)).2.symm)
    · exact .inl ⟨_, (Outcome.failed.inj (Except.ok.inj h)).2.symm⟩

/-- Where there is code on a supported chain, `analyze` on a valid address comes to the outcome of
the signals. -/
theorem analyze_of_hasCode (address : Option String) (chainId : Int) (check : Address.Check)
    (hcheck : Address.check a.scheme address = .ok check) (hvalid : check.isValid = true)
    (hsupported : Chain.isSupported chainId = true)
    (hcode : a.HasCode (Text.lower (address.getD "")) chainId) :
    ∃ warnings, (a.analyze address chainId).value =
      .ok (a.outcomeOf (a.contractOf (Text.lower (address.getD "")) chainId) check.warnings warnings
        (a.signalsOf (a.contractOf (Text.lower (address.getD "")) chainId))) := by
  obtain ⟨warnings, hvalue⟩ := a.value_analyzeValid_of_hasCode _ chainId check.warnings hcode
  refine ⟨warnings, ?_⟩
  rw [a.value_analyze_of_check address chainId check hcheck, hvalid, hsupported, hvalue]
  rfl

/-- Where the code cannot be fetched, `analyze` on a valid address on a supported chain comes to
that failure. -/
theorem analyze_of_code_failed (address : Option String) (chainId : Int) (check : Address.Check)
    (hcheck : Address.check a.scheme address = .ok check) (hvalid : check.isValid = true)
    (hsupported : Chain.isSupported chainId = true) (f : Failure) (hf : isRecorded f = true)
    (hcode : a.codeAnswer (Text.lower (address.getD "")) chainId = .error f)
    (hsource : IsRecorded (a.sourceAnswer (Text.lower (address.getD "")) chainId)) :
    ∃ warnings, (a.analyze address chainId).value =
      .ok (a.failure (Text.lower (address.getD "")) chainId f warnings Analysis.failedAdvice) := by
  have hrecorded : IsRecorded (a.codeAnswer (Text.lower (address.getD "")) chainId) := by
    intro g hg
    rw [← Except.error.inj (hcode.symm.trans hg)]
    exact hf
  -- A recorded failure does not end the fetch.
  have hfetch := (a.value_fetch_eq_ok_iff _ chainId _).mpr ⟨⟨hrecorded, hsource⟩, rfl⟩
  rw [a.value_analyze_of_check address chainId check hcheck, hvalid, hsupported]
  simp only [↓reduceIte, analyzeValid, Timed.value_bind, hfetch, hcode]
  exact ⟨_, rfl⟩

/-- An analysis that is no placeholder `asked` for code and source. -/
theorem asked_analyze (address : Option String) (chainId : Int) (check : Address.Check)
    (hcheck : Address.check a.scheme address = .ok check) (hvalid : check.isValid = true)
    (hsupported : Chain.isSupported chainId = true) (code : String)
    (source : Option SourceRecord)
    (hcode : a.codeAnswer (Text.lower (address.getD "")) chainId = .ok code)
    (hsource : a.sourceAnswer (Text.lower (address.getD "")) chainId = .ok source) :
    .code (Text.lower (address.getD "")) chainId ∈ (a.analyze address chainId).asked ∧
      .source (Text.lower (address.getD "")) chainId ∈ (a.analyze address chainId).asked := by
  have haddress := address_check a.scheme address check hcheck
  simp only [analyze, hcheck, Address.Check.normalized?, hvalid, ↓reduceIte, haddress,
    hsupported, Bool.not_true, Bool.false_eq_true, Timed.asked_map, analyzeValid,
    Timed.asked_bind, fetch, Timed.asked_both, a.asked_askCode _ _ code hcode,
    a.asked_askSource _ _ source hsource]
  simp

end Analyzer

end TokenRisk
