import TokenRisk.Bytecode.Standard
import TokenRisk.Capability
import TokenRisk.Holders
import TokenRisk.Ownership

/-!
# Scores

A score from 0 to 100 that starts at a fixed value and loses points for every signal of risk; a few
signals of care give some back. The level of risk follows from the score, and advice from the
signals and the level.
-/

namespace TokenRisk

/-- Levels of risk, from the least to the greatest `Level.severity`. -/
inductive Level where
  | low
  | medium
  | high
  | critical
  deriving DecidableEq

/-- The name of a `Level`. -/
def Level.name : Level → String
  | .low => "LOW"
  | .medium => "MEDIUM"
  | .high => "HIGH"
  | .critical => "CRITICAL"

/-- How severe a `Level` is. -/
def Level.severity : Level → Nat
  | .low => 0
  | .medium => 1
  | .high => 2
  | .critical => 3

/-- Whether a `Level` counts as a high risk in a survey. -/
def Level.isHigh (l : Level) : Bool :=
  l = .high ∨ l = .critical

/-- The points that each of the `Signals` costs or gives back. -/
structure Weights where
  start : Int := 100
  perOwnershipRisk : Int := 5
  multisigBonus : Int := 10
  proxyPenalty : Int := 15
  concentratedPenalty : Int := 20
  manyConcentrationFindingsPenalty : Int := 10
  /-- `manyConcentrationFindingsPenalty` is due with more findings than this. -/
  manyConcentrationFindings : Int := 2
  unverifiedPenalty : Int := 20
  selfdestructPenalty : Int := 15
  mintingPenalty : Int := 10
  pausablePenalty : Int := 10
  blacklistPenalty : Int := 10
  proxyPatternPenalty : Int := 5
  perRiskPenalty : Int := 2
  riskPenaltyCap : Int := 30
  erc20Bonus : Int := 5
  deriving DecidableEq

/-- Everything that `score` is computed from. -/
structure Signals where
  standard : Standard := {}
  ownership : Ownership := {}
  holders : Holders := {}
  findings : Findings := {}
  deriving DecidableEq

/-- The points of a signal that is `present`. -/
def pointsIf (present : Bool) (points : Int) : Int :=
  if present then points else 0

namespace Signals

/-- The points lost over the `ownership`, less those given back. -/
def ownershipCost (w : Weights) (s : Signals) : Int :=
  s.ownership.risks.length * w.perOwnershipRisk - pointsIf s.ownership.isMultisig w.multisigBonus +
    pointsIf s.ownership.isProxy w.proxyPenalty

/-- The points lost over the `holders`. -/
def holderCost (w : Weights) (s : Signals) : Int :=
  pointsIf s.holders.isConcentrated w.concentratedPenalty +
    pointsIf (w.manyConcentrationFindings < s.holders.risks.length)
      w.manyConcentrationFindingsPenalty

/-- The points lost over the `findings` of dangerous capabilities. -/
def capabilityCost (w : Weights) (s : Signals) : Int :=
  pointsIf s.findings.unverifiedCode w.unverifiedPenalty +
    pointsIf s.findings.hasSelfdestruct w.selfdestructPenalty +
    pointsIf s.findings.hasMinting w.mintingPenalty +
    pointsIf s.findings.isPausable w.pausablePenalty +
    pointsIf s.findings.hasBlacklist w.blacklistPenalty +
    pointsIf (!s.findings.proxyPatterns.isEmpty) w.proxyPatternPenalty +
    min (s.findings.riskCount * w.perRiskPenalty) w.riskPenaltyCap

/-- The score of a token: what the costs leave of `start`, cut to the range from 0 to 100. -/
def score (w : Weights) (s : Signals) : Int :=
  let points := w.start - ownershipCost w s - holderCost w s - capabilityCost w s +
    pointsIf s.standard.isERC20 w.erc20Bonus
  max 0 (min 100 points)

end Signals

/-- The `Level` of a score. -/
def Level.ofScore (score : Int) : Level :=
  if 80 ≤ score then .low else if 60 ≤ score then .medium else if 40 ≤ score then .high
  else .critical

/-- A line of advice that is given when a signal is `present`. -/
def adviceIf (present : Bool) (line : String) : List String :=
  if present then [line] else []

theorem mem_adviceIf (present : Bool) (line s : String) :
    s ∈ adviceIf present line ↔ present = true ∧ s = line := by
  cases present <;> simp [adviceIf]

/-- The advice for a `Level`, which closes the list in `Signals.advice`. -/
def Level.advice : Level → String
  | .low => "This token appears to be safe for interaction"
  | .medium => "Proceed with caution - manual review recommended"
  | .high => "Not recommended for automated transactions - manual approval required"
  | .critical => "Do not interact - this token has critical security issues"

/-- The advice on a token: a line for each signal that is present, and `Level.advice`. -/
def Signals.advice (s : Signals) (level : Level) : List String :=
  adviceIf s.findings.unverifiedCode "Do not interact - contract source is not verified" ++
  adviceIf s.findings.hasSelfdestruct "High risk - contract can be destroyed by owner" ++
  adviceIf s.findings.hasBlacklist "Medium risk - your address can be blacklisted" ++
  adviceIf s.findings.hasMinting "Inflation risk - owner can mint unlimited tokens" ++
  adviceIf s.holders.isConcentrated
    "Liquidity risk - token is highly concentrated among few holders" ++
  adviceIf (s.ownership.isProxy && !s.ownership.isMultisig)
    "Single owner can upgrade contract at any time" ++
  [level.advice]

end TokenRisk
