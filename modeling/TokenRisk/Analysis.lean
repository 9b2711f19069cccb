import TokenRisk.Score
import TokenRisk.Timestamp

/-!
# Analyses

The analysis of one token on one chain, and how it came about: in full, with some part missing, or
not at all. An analysis that could not run is still a value, with the lowest score and the failure
as its error.
-/

namespace TokenRisk

/-- The analysis of a token on a chain. -/
structure Analysis where
  tokenAddress : String
  chainId : Int
  timestamp : String
  isContract : Bool
  signals : Signals
  score : Int
  level : Level
  recommendations : List String := []
  warnings : List String := []
  error : Option String := none
  /-- The name of the verified contract, as the explorer sent it. -/
  contractName : Json := .null

/-- How an `Analysis` came about. -/
inductive Outcome where
  | complete (analysis : Analysis)
  /-- At least one part is missing, for the `reason` given. -/
  | degraded (analysis : Analysis) (reason : String)
  /-- The analysis could not run and is a `placeholder`. -/
  | failed (analysis : Analysis) (failure : Failure)

namespace Outcome

/-- The `Analysis`, placeholder or not. -/
def analysis : Outcome → Analysis
  | .complete a => a
  | .degraded a _ => a
  | .failed a _ => a

/-- The name of the way an analysis came about. -/
def kind : Outcome → String
  | .complete _ => "AnalysisOk"
  | .degraded .. => "AnalysisDegraded"
  | .failed .. => "AnalysisFailed"

/-- Whether the same request would come out the same for as long as results are kept: so do all
outcomes but a `failed` one whose failure may pass. -/
def isSettled : Outcome → Bool
  | .failed _ failure => failure.isSettled
  | _ => true

end Outcome

namespace Analysis

def failedAdvice : String := "Analysis failed - cannot determine if token is safe"
def noContractAdvice : String := "Do not interact - no contract deployed at this address"
def failedRisk : String := "Analysis failed"

/-- The `Analysis` in place of one that could not run, with the lowest score and `error` as its
error. -/
def placeholder (now : String) (address : String) (chainId : Int) (error : String)
    (warnings : List String) (isContract : Bool) (advice : String) : Analysis where
  tokenAddress := Text.lower address
  chainId := chainId
  timestamp := now
  isContract := isContract
  signals := {
    ownership := { risks := [failedRisk] }
    holders := { risks := [failedRisk] }
    findings := { unverifiedCode := true, risks := [error], riskCount := 1 } }
  score := 0
  level := .critical
  recommendations := [advice]
  warnings := warnings
  error := some error

/-- Whether there is a text in `error`. -/
def hasError (a : Analysis) : Bool :=
  a.error.any (!·.isEmpty)

end Analysis

end TokenRisk
