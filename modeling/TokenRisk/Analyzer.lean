import TokenRisk.Analysis
import TokenRisk.Chain
import TokenRisk.Sources

/-!
# Analyzing a token

The analysis of an address on a chain. Code and source are fetched side by side; then the standard,
ownership, holders and capabilities are looked into side by side. A part that fails is replaced by a
cautious default and leaves a warning. Only without code is there no analysis.
-/

namespace TokenRisk

/-- What an analysis depends on besides the address and the chain. -/
structure Analyzer where
  sources : Sources
  /-- The longest wait for a single call, in seconds. -/
  callLimit : Option Binary64
  sampleSize : Int
  scheme : Address.Scheme
  profile : Profile
  detectors : Detectors
  /-- The wall clock, which stands still during an analysis. -/
  now : String

namespace Analyzer

variable (a : Analyzer)

/-- What was fetched about a contract: the snapshot, why there is no code if it could not be had,
and the warnings. -/
structure Fetched where
  contract : Contract
  codeFailure : Option Failure
  warnings : List String

/-- A failure that a fetch records and goes on: that of a provider, or `unsupportedChain`. -/
def isRecorded (f : Failure) : Bool :=
  f.isProvider || f == .unsupportedChain

/-- The result of a lookup in which a failure that `isRecorded` is a value. -/
def recorded {α : Type} : Except Failure α → Except Failure (Except Failure α)
  | .ok x => .ok (.ok x)
  | .error f => if isRecorded f then .ok (.error f) else .error f

/-- The warning about a part that failed. -/
def warning {α : Type} (part : String) : Except Failure α → List String
  | .ok _ => []
  | .error f => [s!"{part} failed: {f.message}"]

/-- The value of a field that is `isTruthy`, else null. -/
def reported (field : SourceRecord → Json) (source : Option SourceRecord) : Json :=
  ((source.map field).getD .null).orElse .null

/-- The `Fetched` contract made of the answers for code and source. -/
def snapshot (address : String) (chainId : Int) (code : Except Failure String)
    (source : Except Failure (Option SourceRecord)) : Fetched :=
  let bytecode := match code with
    | .ok s => if s.isEmpty then "0x" else s
    | .error _ => "0x"
  let record := source.toOption.join
  let sourceCode := (record.map SourceRecord.code).filter (!·.isEmpty)
  { contract := {
      address, chainId, bytecode, sourceCode
      isContract := !(Bytecode.digits bytecode).isEmpty
      name := reported SourceRecord.contractName record
      implementation := reported SourceRecord.implementation record }
    codeFailure := match code with
      | .ok _ => none
      | .error f => some f
    warnings := warning "Bytecode lookup" code ++ warning "Source lookup" source }

/-- Fetches code and source side by side. A failure of either that is not `recorded` ends the
fetch. -/
def fetch (address : String) (chainId : Int) : Timed Call (Except Failure Fetched) :=
  (Timed.both ((a.sources.askCode a.callLimit address chainId).map recorded)
    ((a.sources.askSource a.callLimit address chainId).map recorded)).map fun
      | .error f => .error f
      | .ok (code, source) => .ok (snapshot address chainId code source)

/-- The label of a creator, and the warning if it could not be had. A creator that is no text cannot
be asked about. -/
def creatorLabel (creator : Json) (chainId : Int) :
    Timed Call (Except Failure (Json × List String)) :=
  match creator with
  | .string address =>
    if address.isEmpty then pure (.ok (.null, []))
    else
      (a.sources.askLabel a.callLimit address chainId).map fun
        | .ok label => .ok (label, [])
        | .error f =>
          if f.isProvider then .ok (.null, warning (α := Unit) "Owner label lookup" (.error f))
          else .error f
  | creator =>
    if creator.isTruthy then
      pure (.error (.fault .attribute s!"'{creator.kindName}' object has no attribute 'lower'"))
    else pure (.ok (.null, []))

/-- Who controls a contract by `Ownership.assess`, with warnings for lookups that failed. The
warnings are lost where the assessment fails. -/
def ownership (contract : Contract) : Timed Call (Except Failure (Ownership × List String)) :=
  (a.sources.askCreation a.callLimit contract.address contract.chainId).bind fun
    | .error f =>
      if f.isProvider then
        pure (.ok ({ risks := [Ownership.noCreationRisk] },
          warning (α := Unit) "Ownership lookup" (.error f)))
      else pure (.error f)
    | .ok none => pure (.ok ({ risks := [Ownership.noCreationRisk] }, []))
    | .ok (some creation) =>
      (a.creatorLabel creation.creator contract.chainId).map fun
        | .error f => .error f
        | .ok (label, warnings) =>
          (Ownership.assess contract creation.creator label).map (·, warnings)

/-- How concentrated the holdings are by `Holders.summarize`, with a warning if the holders could
not be had. -/
def holders (address : String) (chainId : Int) :
    Timed Call (Except Failure (Holders × List String)) :=
  (a.sources.askHolders a.callLimit address chainId a.sampleSize).map fun
    | .error f =>
      if f.isProvider then
        .ok ({ risks := [Holders.failedRisk] }, warning (α := Unit) "Holder lookup" (.error f))
      else .error f
    | .ok l => (Holders.summarize {} (Holders.sample a.sampleSize l)).map (·, [])

/-- The standards of a contract by `Standard.ofBytecode`. -/
def standard (contract : Contract) : Timed Call (Except Failure Standard) :=
  pure (.ok (Standard.ofBytecode a.profile contract.bytecode))

/-- The capabilities of a contract by `Findings.detect`. -/
def findings (contract : Contract) : Timed Call (Except Failure Findings) :=
  pure (Findings.detect a.detectors contract)

/-- What the four `parts` of an analysis came to. -/
structure Parts where
  signals : Signals
  warnings : List String

/-- The warnings of parts that failed, given by when each ended, in the order in which they
failed. -/
def failureWarnings (parts : List (Instant × List String)) : List String :=
  (parts.mergeSort fun p q => p.1.ble q.1).flatMap (·.2)

/-- Looks into the four parts side by side. A part that fails is replaced by a cautious default and
leaves a `warning`. -/
def parts (contract : Contract) : Timed Call Parts :=
  let standard := (a.standard contract).spawned
  let ownership := (a.ownership contract).spawned
  let holders := (a.holders contract.address contract.chainId).spawned
  let findings := (a.findings contract).spawned
  let failures := failureWarnings [
    (standard.finish, warning "Standard detection" standard.value),
    (ownership.finish, warning "Ownership analysis" ownership.value),
    (holders.finish, warning "Holder analysis" holders.value),
    (findings.finish, warning "Risk detection" findings.value)]
  let (controls, controlWarnings) :=
    ownership.value.toOption.getD ({ risks := [Ownership.failedRisk] }, [])
  let (shares, shareWarnings) :=
    holders.value.toOption.getD ({ risks := [Holders.failedRisk] }, [])
  { finish := Timed.joinAt [standard.finish, ownership.finish, holders.finish, findings.finish]
    calls := standard.calls ++ ownership.calls ++ holders.calls ++ findings.calls
    value := {
      signals := {
        standard := standard.value.toOption.getD {}
        ownership := controls
        holders := shares
        findings := findings.value.toOption.getD
          { unverifiedCode := true, risks := [Findings.failedRisk], riskCount := 1 } }
      warnings := failures ++ controlWarnings ++ shareWarnings } }

/-- The `Outcome.failed` of an analysis that could not run. -/
def failure (address : String) (chainId : Int) (f : Failure) (warnings : List String)
    (advice : String) : Outcome :=
  .failed (.placeholder a.now address chainId f.message warnings false advice) f

/-- The outcome of the parts. Warnings of the analysis itself, apart from the `notes` on the
address, make it `degraded`. -/
def outcomeOf (contract : Contract) (notes warnings : List String) (signals : Signals) :
    Outcome :=
  let score := signals.score {}
  let level := Level.ofScore score
  let analysis : Analysis := {
    tokenAddress := contract.address
    chainId := contract.chainId
    timestamp := a.now
    isContract := contract.isContract
    signals, score, level
    recommendations := signals.advice level
    warnings := notes ++ warnings
    contractName := contract.name }
  if warnings.isEmpty then .complete analysis
  else .degraded analysis (Text.join "; " warnings)

/-- Analyzes a valid address on a supported chain: its `parts`, once it is fetched and has code. -/
def analyzeValid (address : String) (chainId : Int) (notes : List String) :
    Timed Call (Except Failure Outcome) :=
  (a.fetch address chainId).bind fun
    | .error f => pure (.error f)
    | .ok fetched =>
      match fetched.codeFailure with
      | some f =>
        pure (.ok (a.failure address chainId f (notes ++ fetched.warnings)
          Analysis.failedAdvice))
      | none =>
        if !fetched.contract.isContract then
          pure (.ok (a.failure address chainId .notAContract notes Analysis.noContractAdvice))
        else
          (a.parts fetched.contract).map fun parts =>
            .ok (a.outcomeOf fetched.contract notes (fetched.warnings ++ parts.warnings)
              parts.signals)

/-- The outcome, or one that has `unexpected` as its failure in place of an unplanned one. -/
def orUnexpected (address : String) (chainId : Int) : Except Failure Outcome → Outcome
  | .ok outcome => outcome
  | .error f =>
    a.failure address chainId (.unexpected f.description) [] Analysis.failedAdvice

/-- Analyzes an address on a chain. Fails only where `Address.check` does. -/
def analyze (address : Option String) (chainId : Int) : Timed Call (Except Failure Outcome) :=
  match Address.check a.scheme address with
  | .error f => pure (.error f)
  | .ok check =>
    match check.normalized? with
    | none =>
      pure (.ok (a.failure (address.getD "") chainId (.invalidAddress address check.errors)
        check.warnings Analysis.failedAdvice))
    | some normalized =>
      if !Chain.isSupported chainId then
        pure (.ok (a.failure normalized chainId .unsupportedChain [] Analysis.failedAdvice))
      else
        (a.analyzeValid normalized chainId check.warnings).map fun r =>
          .ok (a.orUnexpected normalized chainId r)

end Analyzer

end TokenRisk
