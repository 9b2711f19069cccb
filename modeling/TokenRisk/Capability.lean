import TokenRisk.Contract
import TokenRisk.Failure

/-!
# Dangerous capabilities

Detectors look for what the owner of a token could do to its holders. Verified source is searched
for keywords. Without source the contract is flagged and its code is searched for fragments instead.
-/

namespace TokenRisk

/-- The capabilities that a `Detector` can raise a flag for. Any `other` flag is a fault of the
detector. -/
inductive Flag where
  | selfdestruct
  | minting
  | pausable
  | blacklist
  | other (name : String)
  deriving DecidableEq

/-- What a `Detector` looks at. -/
inductive Evidence where
  /-- Any of these `words` in the source, in any letter case. -/
  | keywords (words : List String)
  /-- All of these fragments in the digits of the code. -/
  | fragments (parts : List String)
  /-- A detector that fails with a message. -/
  | broken (message : String)
  deriving DecidableEq

/-- The `Evidence` for a capability and what it stands for. -/
structure Detector where
  evidence : Evidence
  risk : String
  flag : Option Flag := none
  proxyPattern : Option String := none
  deriving DecidableEq

/-- The capabilities found in a contract. -/
structure Findings where
  hasSelfdestruct : Bool := false
  hasMinting : Bool := false
  isPausable : Bool := false
  hasBlacklist : Bool := false
  proxyPatterns : List String := []
  unverifiedCode : Bool := false
  risks : List String := []
  riskCount : Int := 0
  deriving DecidableEq

/-- The detectors for verified source and for bare code, of which `Findings.detect` runs one
list. -/
structure Detectors where
  source : List Detector
  bytecode : List Detector
  deriving DecidableEq

namespace Detector

/-- Whether the `evidence` is there. -/
def matches? (d : Detector) (c : Contract) : Except Failure Bool :=
  match d.evidence with
  | .keywords words =>
    let source := Text.lower c.sourceText
    .ok (words.any fun w => Text.contains source (Text.lower w))
  | .fragments parts =>
    let code := c.codeHex
    .ok (!code.isEmpty && parts.all fun p => Text.contains code (Text.lower p))
  | .broken message => .error (.fault .runtime message)

/-- The detectors among `ds` that `matches?` finds, in order. The first one that fails ends the
search. -/
def hits (c : Contract) : List Detector → Except Failure (List Detector)
  | [] => .ok []
  | d :: ds => do
    let here ← d.matches? c
    let rest ← hits c ds
    return if here then d :: rest else rest

end Detector

namespace Detectors

/-- The detectors for verified source. -/
def defaultSource : List Detector := [
  { evidence := .keywords ["selfdestruct", "suicide"]
    risk := "Contract has selfdestruct function - can be destroyed"
    flag := some .selfdestruct },
  { evidence := .keywords ["mint(", "_mint"]
    risk := "Contract has minting capabilities - can create new tokens"
    flag := some .minting },
  { evidence := .keywords ["pause", "_pause"]
    risk := "Contract has pausable functions - transfers can be frozen"
    flag := some .pausable },
  { evidence := .keywords ["blacklist", "_blacklist"]
    risk := "Contract has blacklist functionality - can block addresses"
    flag := some .blacklist },
  { evidence := .keywords ["proxy", "delegatecall"]
    risk := "Uses proxy pattern - can be upgraded by owner"
    proxyPattern := some "Uses delegate call pattern" },
  { evidence := .keywords ["upgradeable", "uups"]
    risk := "UUPS proxy pattern - upgradeable contract"
    proxyPattern := some "UUPS proxy detected" }]

/-- The detectors for bare code. -/
def defaultBytecode : List Detector := [
  { evidence := .fragments ["ff", "3314"]
    risk := "Bytecode contains selfdestruct pattern - can be destroyed"
    flag := some .selfdestruct },
  { evidence := .fragments ["363d3d373d3d3d363d73"]
    risk := "Bytecode contains delegatecall proxy trampoline"
    proxyPattern := some "Minimal proxy delegatecall trampoline" },
  { evidence := .fragments ["3d3d3d3d"]
    risk := "Bytecode contains CREATE2 deployment pattern" },
  { evidence := .fragments ["55"]
    risk := "Bytecode writes persistent storage (SSTORE)" }]

/-- The `Detectors` in use unless others are given. -/
def default : Detectors := ⟨defaultSource, defaultBytecode⟩

end Detectors

namespace Findings

def unverifiedRisk : String := "Contract source code not verified"
def failedRisk : String := "Failed to detect security risks"

/-- The name of a flag outside the known ones. -/
def unknownFlag? : Flag → Option String
  | .other name => some name
  | _ => none

/-- The findings that a list of matching detectors adds up to. An `unknownFlag?` among their flags
is a fault. -/
def ofHits (unverified : Bool) (hits : List Detector) : Findings :=
  let flags := hits.filterMap Detector.flag
  let risks := (if unverified then [unverifiedRisk] else []) ++ hits.map Detector.risk
  { hasSelfdestruct := flags.contains .selfdestruct
    hasMinting := flags.contains .minting
    isPausable := flags.contains .pausable
    hasBlacklist := flags.contains .blacklist
    proxyPatterns := hits.filterMap Detector.proxyPattern
    unverifiedCode := unverified
    risks := risks
    riskCount := risks.length }

/-- Runs the detectors that suit the contract: those for source when `hasSource`, else those for
bare code. -/
def detect (detectors : Detectors) (c : Contract) : Except Failure Findings := do
  let unverified := !c.hasSource
  let hits ← Detector.hits c (if unverified then detectors.bytecode else detectors.source)
  match (hits.filterMap Detector.flag).findSome? unknownFlag? with
  | some name => .error (.fault .type
      s!"RiskFindings.__init__() got an unexpected keyword argument '{name}'")
  | none => return ofHits unverified hits

end Findings

end TokenRisk
