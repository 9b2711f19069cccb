import TokenRisk.Survey.Basic

/-!
# Decisions

Whether a token may be used without asking. Safety is denied by default: it takes the lowest level
of risk, verified source, holdings that are spread, and no bad news from other chains.
-/

namespace TokenRisk

/-- A verdict on a token, with the `risks` it rests on. -/
structure Decision where
  isSafe : Bool
  canAutomate : Bool
  requiresApproval : Bool
  risks : List String := []
  reason : String := ""
  deriving DecidableEq

namespace Decision

/-- The `reason` that goes with a verdict. -/
def reasonFor (isSafe canAutomate requiresApproval : Bool) : String :=
  if isSafe then
    if canAutomate then "Token appears safe for automated transactions"
    else "Token is safe but requires user interaction"
  else if requiresApproval then "Token has risks and requires approval"
  else "Token is not safe to interact with"

/-- The verdict on a token that could not be analyzed, which denies everything. -/
def ofError (message reasonPrefix : String) : Decision where
  isSafe := false
  canAutomate := false
  requiresApproval := false
  risks := [s!"Verification Error: {message}"]
  reason := s!"{reasonPrefix}: {message}"

def cannotVerify : String := "Cannot verify token"

/-- The risk that a `Level` above the lowest stands for. -/
def levelRisk? : Level → Option String
  | .low => none
  | level => some s!"Token rated {level.name} risk"

/-- The risks that other chains add. Any of them keeps `decide` from calling the token safe. The
count in the first is written in all its digits, past `Numeral.maxIntDigits` as well. -/
def surveyRisks (s : Survey) : List String :=
  (if 0 < s.highRisk then [s!"High risk on {s.highRisk} chain(s)"] else []) ++
  (if s.found = 0 then ["Token not found on any network"]
   else if s.verified = 0 then ["Not verified on any chain"] else [])

/-- The verdict on an `Analysis`, and on a `Survey` if there is one. A token is safe only on the
lowest level, with verified source, with holdings that are spread, and without `surveyRisks`. -/
def decide (a : Analysis) (survey : Option Survey) : Decision :=
  if a.hasError then ofError (a.error.getD "") cannotVerify
  else
    let isLow := a.level == .low
    let fromSurvey := (survey.map surveyRisks).getD []
    let safeElsewhere := isLow && fromSurvey.isEmpty
    let unverified := a.signals.findings.unverifiedCode
    let concentrated := a.signals.holders.isConcentrated
    let safeIfSpread := safeElsewhere && !unverified
    let isSafe := safeIfSpread && !concentrated
    let canAutomate := isLow && !unverified && isSafe
    let requiresApproval := a.level == .high || a.level == .medium || concentrated
    let risks := (levelRisk? a.level).toList ++ a.signals.findings.risks ++ fromSurvey ++
      adviceIf (safeElsewhere && unverified) "Unverified contract source code" ++
      adviceIf (safeIfSpread && concentrated) "Highly concentrated token holdings" ++
      adviceIf (isLow && !isSafe) "Unable to verify token safety with confidence"
    { isSafe, canAutomate, requiresApproval
      risks := Text.distinct risks
      reason := reasonFor isSafe canAutomate requiresApproval }

end Decision

end TokenRisk
