import TokenRisk.Analyzer
import TokenRisk.Number
import TokenRisk.Survey.Summary
import TokenRisk.Timed.Slots

/-!
# Running a survey

An address is analyzed on many chains at a time, each under a limit of its own. How many analyses
run at one time is limited too. A chain that fails or takes too long gets a record that says so; it
disturbs no other chain.
-/

namespace TokenRisk

/-- Analyzes an address on a chain, as `Analyzer.analyze` does. -/
abbrev Analyze := Option String → Int → Timed Call (Except Failure Outcome)

/-- How surveys are run. -/
structure Surveyor where
  analyze : Analyze
  /-- The longest time for one chain, in seconds. -/
  chainLimit : Option Number
  /-- How many chains are analyzed at one time. -/
  slots : Int
  now : String

namespace Surveyor

variable (s : Surveyor)

/-- The chains of a survey: those asked for, each once, or `Chain.allIds`. -/
def targets : Option (List Int) → List Int
  | none => Chain.allIds
  | some ids => Text.distinct ids

/-- The `ChainRecord` of a chain, with the `Outcome` if the analysis came to one. -/
abbrev Visit := ChainRecord × Option Outcome

/-- The error of a chain on which the `chainLimit` ran out. -/
def timeoutError : String :=
  "Chain analysis timed out after " ++ (s.chainLimit.map Number.text).getD "None" ++ "s"

/-- The `Visit` of a supported chain, from its analysis or, with `timeoutError`, from the lack of
one. -/
def visitOf (address : String) (chainId : Int) :
    Option (Except Failure Outcome) → Visit
  | none => (.missing chainId (Text.lower address) s.timeoutError, none)
  | some (.error f) =>
    let error := if f.message.isEmpty then "Analysis error" else f.message
    (.missing chainId (Text.lower address) error, none)
  | some (.ok outcome) => (.ofOutcome chainId (Text.lower address) outcome, some outcome)

/-- The `Visit` of a supported chain, `within` the limit for a chain. -/
def visit (address : String) (chainId : Int) : Timed Call Visit :=
  (((s.analyze (some address) chainId).map some).within (s.chainLimit.map Number.toBinary64)
    none).map (s.visitOf address chainId)

/-- The `Visit` of a chain that is not supported, which takes no time. -/
def visitUnsupported (address : String) (chainId : Int) : Visit :=
  (.missing chainId (Text.lower address) Failure.unsupportedChain.message, none)

/-- A target in the course of a survey: when its visit starts, and the visit counted from there. -/
structure Stop where
  chainId : Int
  start : Instant
  visit : Timed Call Visit

/-- The `wait` for the start and then the visit. -/
def Stop.run (v : Stop) : Timed Call Visit :=
  (Timed.wait v.start).bind fun _ => v.visit

/-- The `Stop` at a chain that is visited from `start` on. -/
def stopAt (address : String) (chainId : Int) (start : Instant) : Stop where
  chainId := chainId
  start := start
  visit := if Chain.isSupported chainId then s.visit address chainId
    else pure (visitUnsupported address chainId)

/-- The stops at targets. Supported chains take the starts in order, the others wait for nothing. A
supported chain for which there is no start is never visited. -/
def stopsFrom (address : String) : List Instant → List Int → List Stop
  | _, [] => []
  | starts, id :: ids =>
    if Chain.isSupported id then
      match starts with
      | [] => stopsFrom address [] ids
      | start :: starts => s.stopAt address id start :: stopsFrom address starts ids
    else s.stopAt address id .zero :: stopsFrom address starts ids

/-- The stops of a survey, with the starts that `Slots.schedule` gives to its supported chains. -/
def stops (address : String) (targets : List Int) : List Stop :=
  let durations := (targets.filter Chain.isSupported).map fun id => (s.visit address id).finish
  s.stopsFrom address (Slots.schedule s.slots.toNat durations) targets

/-- The visits of all chains, counted from the start of the survey. -/
def visits (address : String) (targets : List Int) : List (Timed Call Visit) :=
  (s.stops address targets).map Stop.run

/-- A survey that never ends: there is no slot, and a supported chain waits for one. -/
def IsStuck (targets : List Int) : Prop :=
  s.slots = 0 ∧ targets.any Chain.isSupported = true

/-- Surveys an address: the summary, and the outcome of every chain whose analysis came to one. A
number of slots below zero is refused. Timed work always ends, so a survey that `IsStuck` has no
place among it; a failure at once stands for it here, and what is said about surveys leaves it out.
-/
def run (address : String) (chainIds : Option (List Int)) (baseChainId : Int) :
    Timed Call (Except Failure (Survey × List (Int × Outcome))) :=
  let targets := targets chainIds
  if s.slots < 0 then
    pure (.error (.fault .value "Semaphore initial value must be >= 0"))
  else if s.slots = 0 ∧ targets.any Chain.isSupported then
    pure (.error (.fault .runtime "no chain can be analyzed without a slot"))
  else
    (Timed.all (s.visits address targets)).map fun visits => do
      let survey ← Survey.ofRecords s.now (Text.lower address) baseChainId (visits.map (·.1))
      return (survey, visits.filterMap fun v => v.2.map fun outcome => (v.1.chainId, outcome))

end Surveyor

end TokenRisk
