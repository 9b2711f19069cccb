import TokenRisk.Json.Display
import TokenRisk.Request

/-!
# Reports

Analyses, surveys and verifications as plain text, line by line.
-/

namespace TokenRisk

namespace Report

/-- The lines of a text, with line breaks between them. -/
def ofLines (lines : List String) : String :=
  Text.join "\n" lines

def yesNo (b : Bool) : String :=
  if b then "YES" else "NO"

def trueFalse (b : Bool) : String :=
  if b then "True" else "False"

/-- A rule across the page. -/
def rule : String := "========================================="

/-- A line of a list. -/
def bullet (line : String) : String :=
  "* " ++ line

/-- A line behind a label, which is left out when there is no text. -/
def optionalLine (label : String) : Option String → List String
  | none => []
  | some text => if text.isEmpty then [] else [label ++ text]

end Report

open Report

namespace Analysis

/-- The lines that identify an `Analysis`. -/
def headLines (a : Analysis) : List String :=
  ["=== Token Analysis Report ===",
    "Token Address: " ++ a.tokenAddress,
    s!"Chain: {Chain.displayName a.chainId} ({a.chainId})",
    "Timestamp: " ++ a.timestamp] ++
  (if a.contractName.isTruthy then ["Contract Name: " ++ a.contractName.display] else []) ++
  optionalLine "Error: " a.error

/-- The lines about the `Standard`. -/
def standardLines (s : Standard) : List String :=
  ["--- Token Standard ---",
    "Type: " ++ s.detectedType,
    "ERC20: " ++ trueFalse s.isERC20,
    "ERC721: " ++ trueFalse s.isERC721,
    "ERC1155: " ++ trueFalse s.isERC1155,
    s!"Confidence: {s.confidence}%"]

/-- The lines about the `Ownership`. -/
def ownershipLines (o : Ownership) : List String :=
  ["--- Ownership ---",
    "Owner: " ++ (o.owner.filter (!·.isEmpty)).getD "Unknown",
    "Multisig: " ++ trueFalse o.isMultisig,
    "Proxy: " ++ trueFalse o.isProxy] ++
  optionalLine "Implementation: " o.implementation ++
  [s!"Risks: {o.risks.length}"]

/-- The lines about the `Holders`. -/
def holderLines (h : Holders) : List String :=
  ["--- Holder Distribution ---",
    s!"Total Holders: {h.total}",
    "Top Holder %: " ++ (if h.total = 0 then "N/A" else Holders.percentText h.topShare),
    "Top 5 Combined: " ++ Holders.percentText h.top5Share,
    "Top 10 Combined: " ++ Holders.percentText h.top10Share,
    "Concentration Risk: " ++ yesNo h.isConcentrated]

/-- The lines about the `Findings`. -/
def findingLines (f : Findings) : List String :=
  ["--- Security Risks ---",
    "Verified: " ++ yesNo (!f.unverifiedCode),
    "Selfdestruct: " ++ trueFalse f.hasSelfdestruct,
    "Minting: " ++ trueFalse f.hasMinting,
    "Pausable: " ++ trueFalse f.isPausable,
    "Blacklist: " ++ trueFalse f.hasBlacklist,
    s!"Total Risks: {f.riskCount}"]

/-- The lines of the assessment: score and `Level`. -/
def assessmentLines (a : Analysis) : List String :=
  ["--- Overall Assessment ---",
    s!"Security Score: {a.score}/100",
    "Risk Level: " ++ a.level.name]

/-- The lines of an `Analysis`, one section after the other. -/
def reportLines (a : Analysis) : List String :=
  a.headLines ++ [""] ++ standardLines a.signals.standard ++ [""] ++
  ownershipLines a.signals.ownership ++ [""] ++ holderLines a.signals.holders ++ [""] ++
  findingLines a.signals.findings ++ [""] ++ a.assessmentLines ++ [""] ++
  "--- Recommendations ---" :: a.recommendations ++
  (if a.warnings.isEmpty then [] else ["", "--- Warnings ---"] ++ a.warnings.map bullet)

/-- The report on an `Analysis`. -/
def report (a : Analysis) : String :=
  ofLines a.reportLines

end Analysis

namespace ChainRecord

/-- The state of a chain, as its line in `Survey.reportLines` shows it. -/
def status (r : ChainRecord) : String :=
  let state := match r.analysis with
    | some a => s!"{a.level.name} ({a.score}/100)"
    | none => if r.isFound then "UNKNOWN" else "NOT FOUND"
  state ++ (match r.error with
    | some e => if e.isEmpty then "" else " - " ++ e
    | none => "")

end ChainRecord

namespace Survey

/-- A section of a report with a blank line after it; an empty one is left out. -/
def sectionLines (title : String) (lines : List String) : List String :=
  if lines.isEmpty then [] else title :: lines ++ [""]

/-- The lines of a `Survey`, section after section. -/
def reportLines (s : Survey) : List String :=
  ["=== Cross-Chain Token Analysis ===",
    "Base Token Address: " ++ s.baseAddress,
    "Analysis Timestamp: " ++ s.timestamp,
    "",
    "--- Chain Summary ---",
    s!"Total Chains Checked: {s.records.length}",
    s!"Tokens Found: {s.found}",
    s!"Verified on Chains: {s.verified}",
    s!"High/Critical Risk on Chains: {s.highRisk}",
    s!"Medium Risk on Chains: {s.mediumRisk}",
    ""] ++
  sectionLines "--- Per-Chain Status ---"
    (s.records.map fun r => r.chainName ++ ": " ++ r.status) ++
  sectionLines "--- Bridge Indicators ---" (s.bridgeIndicators.map bullet) ++
  sectionLines "--- Wrapped Versions ---"
    (s.wrapped.map fun w => w.wrapperName ++ " on " ++ Chain.displayName w.chainId) ++
  "--- Recommendations ---" :: s.recommendations.map bullet

/-- The report on a `Survey`. -/
def report (s : Survey) : String :=
  ofLines s.reportLines

end Survey

/-- The detailed part of a verification: `Analysis.report` and `Survey.report`, as far as there are
any. -/
def detailedReport (a : Option Analysis) (s : Option Survey) : String :=
  let sections := (a.map Analysis.report).toList ++ (s.map Survey.report).toList
  if sections.isEmpty then "No analysis available" else Text.join "\n\n" sections

namespace Verification

/-- The word for the verdict, by `isSafe`. -/
def statusWord (v : Verification) : String :=
  if v.decision.isSafe then "SAFE" else "UNSAFE"

/-- The address as a caller wrote it. -/
def shownAddress (v : Verification) : String :=
  v.request.tokenAddress.getD "None"

/-- The decision in lines of its own, and the `report` with the details. -/
def fullReport (v : Verification) : String :=
  let d := v.decision
  ofLines (
    [rule, "TOKEN VERIFICATION REPORT", rule,
      "Request ID: " ++ v.requestId,
      "Timestamp: " ++ v.timestamp,
      "",
      "--- Verification Decision ---",
      "Safe to Interact: " ++ yesNo d.isSafe,
      "Can Automate: " ++ yesNo d.canAutomate,
      "Requires Approval: " ++ yesNo d.requiresApproval,
      "Reason: " ++ d.reason,
      ""] ++
    Survey.sectionLines "--- Detected Risks ---" (d.risks.map bullet) ++
    ["--- Detailed Analysis ---", v.report, "", rule])

/-- The decision in five lines. -/
def summary (v : Verification) : String :=
  ofLines [
    "Token: " ++ v.shownAddress,
    "Status: " ++ v.statusWord,
    "Automate: " ++ yesNo v.decision.canAutomate,
    s!"Risks Detected: {v.decision.risks.length}",
    "Reason: " ++ v.decision.reason]

/-- How many verifications are safe. -/
def safeCount (vs : List Verification) : Nat :=
  vs.countP (·.decision.isSafe)

def automatableCount (vs : List Verification) : Nat :=
  vs.countP (·.decision.canAutomate)

/-- The lines of one entry of a `comparison`. -/
def comparisonEntry (number : Nat) (v : Verification) : List String :=
  [s!"{number}. " ++ v.shownAddress,
    "   Status: " ++ v.statusWord,
    s!"   Risks: {v.decision.risks.length}",
    "   Reason: " ++ v.decision.reason,
    ""]

/-- Several verifications one below the other, with `safeCount` and `automatableCount`. -/
def comparison (vs : List Verification) : String :=
  let total := vs.length
  ofLines (
    [rule, "TOKEN VERIFICATION COMPARISON", rule, ""] ++
    (vs.mapIdx fun i v => comparisonEntry (i + 1) v).flatten ++
    ["--- Summary ---",
      s!"Total Tokens: {total}",
      s!"Safe: {safeCount vs}/{total}",
      s!"Can Automate: {automatableCount vs}/{total}",
      rule])

end Verification

end TokenRisk
