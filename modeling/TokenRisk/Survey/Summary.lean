import TokenRisk.Survey.Wrapped

/-!
# What a survey adds up to

Counts over the records of a survey, the patterns that point to a bridged token, and advice from
both.
-/

namespace TokenRisk

namespace ChainRecord

/-- Each `Analysis` of the records that have one. -/
def analyses (records : List ChainRecord) : List Analysis :=
  records.filterMap ChainRecord.analysis

/-- The number of records with `isFound`. -/
def foundCount (records : List ChainRecord) : Nat :=
  records.countP ChainRecord.isFound

/-- The number of `analyses` with verified source. -/
def verifiedCount (records : List ChainRecord) : Nat :=
  (analyses records).countP fun a => !a.signals.findings.unverifiedCode

/-- The number of `analyses` at a level that `Level.isHigh`. -/
def highRiskCount (records : List ChainRecord) : Nat :=
  (analyses records).countP fun a => a.level.isHigh

/-- The number of `analyses` at the medium level. -/
def mediumRiskCount (records : List ChainRecord) : Nat :=
  (analyses records).countP fun a => a.level == .medium

/-- The number of `analyses` with concentrated holdings. -/
def concentratedCount (records : List ChainRecord) : Nat :=
  (analyses records).countP fun a => a.signals.holders.isConcentrated

/-- The owners in the `analyses`, each once. -/
def owners (records : List ChainRecord) : List String :=
  Text.distinct
    (((analyses records).filterMap fun a => a.signals.ownership.owner).filter (!·.isEmpty))

/-- The patterns in the records that point to a bridged token. -/
def bridgeIndicators (records : List ChainRecord) : List String :=
  let found := foundCount records
  let high := highRiskCount records
  let verified := verifiedCount records
  let owned := (owners records).length
  adviceIf (1 < found) s!"Token deployed on {found} chains" ++
  adviceIf (0 < high) s!"High risk on {high} chains" ++
  adviceIf (0 < verified && verified < found) "Verification status varies across chains" ++
  adviceIf (1 < owned) s!"Multiple owner addresses across chains ({owned})" ++
  adviceIf (found < 2 * concentratedCount records)
    "High holder concentration across most chains"

end ChainRecord

namespace Survey

/-- The advice on a survey, by its counts and its `bridgeIndicators`. -/
def advice (s : Survey) : List String :=
  adviceIf (0 < s.highRisk) s!"Token rated HIGH or CRITICAL risk on {s.highRisk} chain(s)" ++
  adviceIf (4 < s.found) "Token deployed on many chains - verify legitimacy of all versions" ++
  adviceIf (!s.wrapped.isEmpty) s!"Token has {s.wrapped.length} wrapped version(s) detected" ++
  adviceIf (s.verified < s.found)
    s!"{s.found - s.verified} version(s) not verified - increased risk" ++
  adviceIf (s.verified = 0) "No verified versions found - do not interact" ++
  adviceIf (!s.bridgeIndicators.isEmpty) "Potential cross-chain bridge token detected" ++
  (if s.found = 0 then ["Token not found on any network"]
   else if s.found = 1 then ["Token exists on single chain only"]
   else adviceIf (s.highRisk = 0 && s.mediumRisk ≤ 1)
     "Token appears safe on all verified chains")

/-- The survey of an address that the records add up to. It fails where `Wrapped.ofRecords` does. -/
def ofRecords (now : String) (address : String) (baseChainId : Int)
    (records : List ChainRecord) : Except Failure Survey := do
  let wrapped ← Wrapped.ofRecords records
  let survey : Survey := {
    baseAddress := address
    baseChainId, records, wrapped
    found := ChainRecord.foundCount records
    verified := ChainRecord.verifiedCount records
    highRisk := ChainRecord.highRiskCount records
    mediumRisk := ChainRecord.mediumRiskCount records
    bridgeIndicators := ChainRecord.bridgeIndicators records
    timestamp := now }
  return { survey with recommendations := survey.advice }

end Survey

end TokenRisk
