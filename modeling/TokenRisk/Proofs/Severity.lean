import TokenRisk.Proofs.Score

/-!
# More risk, lower score

Signals are compared part by part: those of one token are no riskier than those of another if it has
no more remarks and findings, no flag of risk that the other one lacks, and every sign of care that
the other one has. Whatever the numbers are, the riskier token scores no higher and its level is no
milder. What the remarks say, and in which order, makes no difference.

## Key results

- `Signals.score_le`: under weights that never reward a risk, more risk scores no higher
- `Signals.score_reworded`: the texts of remarks are not looked at
- `Signals.score_antitone`: both for the usual weights, with the levels of the scores
-/

namespace TokenRisk

/-! ## The order of risk -/

/-- Ownership of a contract that is no riskier than another one's. -/
structure Ownership.IsNoRiskierThan (o o' : Ownership) : Prop where
  risks : o.risks.length ≤ o'.risks.length
  isProxy : o.isProxy = true → o'.isProxy = true
  isMultisig : o'.isMultisig = true → o.isMultisig = true

/-- Holdings that are no riskier than others. -/
structure Holders.IsNoRiskierThan (h h' : Holders) : Prop where
  risks : h.risks.length ≤ h'.risks.length
  isConcentrated : h.isConcentrated = true → h'.isConcentrated = true

/-- Capabilities that are no riskier than others. -/
structure Findings.IsNoRiskierThan (f f' : Findings) : Prop where
  unverifiedCode : f.unverifiedCode = true → f'.unverifiedCode = true
  hasSelfdestruct : f.hasSelfdestruct = true → f'.hasSelfdestruct = true
  hasMinting : f.hasMinting = true → f'.hasMinting = true
  isPausable : f.isPausable = true → f'.isPausable = true
  hasBlacklist : f.hasBlacklist = true → f'.hasBlacklist = true
  proxyPatterns : f.proxyPatterns ≠ [] → f'.proxyPatterns ≠ []
  riskCount : f.riskCount ≤ f'.riskCount

/-- Signals none of which is riskier than in others. -/
structure Signals.IsNoRiskierThan (s s' : Signals) : Prop where
  isERC20 : s'.standard.isERC20 = true → s.standard.isERC20 = true
  ownership : s.ownership.IsNoRiskierThan s'.ownership
  holders : s.holders.IsNoRiskierThan s'.holders
  findings : s.findings.IsNoRiskierThan s'.findings

theorem Ownership.IsNoRiskierThan.rfl {o : Ownership} : o.IsNoRiskierThan o :=
  ⟨Nat.le_refl _, id, id⟩

theorem Holders.IsNoRiskierThan.rfl {h : Holders} : h.IsNoRiskierThan h :=
  ⟨Nat.le_refl _, id⟩

/-- Weights that never reward a risk and never charge for care. -/
structure Weights.IsPenal (w : Weights) : Prop where
  perOwnershipRisk : 0 ≤ w.perOwnershipRisk
  multisigBonus : 0 ≤ w.multisigBonus
  proxyPenalty : 0 ≤ w.proxyPenalty
  concentratedPenalty : 0 ≤ w.concentratedPenalty
  manyConcentrationFindingsPenalty : 0 ≤ w.manyConcentrationFindingsPenalty
  unverifiedPenalty : 0 ≤ w.unverifiedPenalty
  selfdestructPenalty : 0 ≤ w.selfdestructPenalty
  mintingPenalty : 0 ≤ w.mintingPenalty
  pausablePenalty : 0 ≤ w.pausablePenalty
  blacklistPenalty : 0 ≤ w.blacklistPenalty
  proxyPatternPenalty : 0 ≤ w.proxyPatternPenalty
  perRiskPenalty : 0 ≤ w.perRiskPenalty
  erc20Bonus : 0 ≤ w.erc20Bonus

theorem Weights.isPenal_default : Weights.IsPenal {} := by
  constructor <;> decide

/-! ## Costs -/

/-- `pointsIf` is no less for a signal that is present wherever another one is. -/
theorem pointsIf_mono {present present' : Bool} {points : Int} (hpoints : 0 ≤ points)
    (h : present = true → present' = true) :
    pointsIf present points ≤ pointsIf present' points := by
  cases present with
  | false =>
    cases present' with
    | false => exact Int.le_refl _
    | true => exact hpoints
  | true => exact Int.le_of_eq (by rw [h rfl])

namespace Signals

variable {w : Weights} {s s' : Signals}

theorem ownershipCost_mono (hw : w.IsPenal) (h : s.ownership.IsNoRiskierThan s'.ownership) :
    s.ownershipCost w ≤ s'.ownershipCost w := by
  have hrisks : s.ownership.risks.length * w.perOwnershipRisk ≤
      s'.ownership.risks.length * w.perOwnershipRisk :=
    Int.mul_le_mul_of_nonneg_right (Int.ofNat_le.mpr h.risks) hw.perOwnershipRisk
  have hmultisig := pointsIf_mono hw.multisigBonus h.isMultisig
  have hproxy := pointsIf_mono hw.proxyPenalty h.isProxy
  simp only [ownershipCost]
  omega

theorem holderCost_mono (hw : w.IsPenal) (h : s.holders.IsNoRiskierThan s'.holders) :
    s.holderCost w ≤ s'.holderCost w := by
  have hconcentrated := pointsIf_mono hw.concentratedPenalty h.isConcentrated
  -- More findings are past the limit if fewer are.
  have hmany : decide (w.manyConcentrationFindings < s.holders.risks.length) = true →
      decide (w.manyConcentrationFindings < s'.holders.risks.length) = true := by
    have hrisks := h.risks
    simp only [decide_eq_true_eq]
    omega
  have hfindings := pointsIf_mono hw.manyConcentrationFindingsPenalty hmany
  simp only [holderCost]
  omega

theorem capabilityCost_mono (hw : w.IsPenal) (h : s.findings.IsNoRiskierThan s'.findings) :
    s.capabilityCost w ≤ s'.capabilityCost w := by
  have hunverified := pointsIf_mono hw.unverifiedPenalty h.unverifiedCode
  have hselfdestruct := pointsIf_mono hw.selfdestructPenalty h.hasSelfdestruct
  have hminting := pointsIf_mono hw.mintingPenalty h.hasMinting
  have hpausable := pointsIf_mono hw.pausablePenalty h.isPausable
  have hblacklist := pointsIf_mono hw.blacklistPenalty h.hasBlacklist
  have hpatterns : (!s.findings.proxyPatterns.isEmpty) = true →
      (!s'.findings.proxyPatterns.isEmpty) = true := by
    simpa using h.proxyPatterns
  have hproxy := pointsIf_mono hw.proxyPatternPenalty hpatterns
  -- The penalty by count grows with the count, and a cap on both sides keeps that.
  have hcount : s.findings.riskCount * w.perRiskPenalty ≤
      s'.findings.riskCount * w.perRiskPenalty :=
    Int.mul_le_mul_of_nonneg_right h.riskCount hw.perRiskPenalty
  simp only [capabilityCost]
  omega

/-! ## Scores -/

/-- Under weights that are `IsPenal`, more risk has no higher `score`. -/
theorem score_le (hw : w.IsPenal) (h : s.IsNoRiskierThan s') : s'.score w ≤ s.score w := by
  apply score_le_of_parts
  · exact ownershipCost_mono hw h.ownership
  · exact holderCost_mono hw h.holders
  · exact capabilityCost_mono hw h.findings
  · exact pointsIf_mono hw.erc20Bonus h.isERC20

/-- The same signals with other texts. -/
def reworded (s : Signals) (control holdings capabilities patterns : List String) : Signals :=
  { s with
    ownership := { s.ownership with risks := control }
    holders := { s.holders with risks := holdings }
    findings := { s.findings with risks := capabilities, proxyPatterns := patterns } }

/-- Texts are counted or not looked at, so signals that are `reworded`, in any order, have the same
`score`. -/
theorem score_reworded (w : Weights) (s : Signals)
    (control holdings capabilities patterns : List String)
    (hcontrol : control.length = s.ownership.risks.length)
    (hholdings : holdings.length = s.holders.risks.length)
    (hpatterns : patterns.length = s.findings.proxyPatterns.length) :
    (s.reworded control holdings capabilities patterns).score w = s.score w := by
  have hempty : patterns.isEmpty = s.findings.proxyPatterns.isEmpty := by
    rw [Bool.eq_iff_iff, List.isEmpty_iff_length_eq_zero, List.isEmpty_iff_length_eq_zero,
      hpatterns]
  simp only [score, ownershipCost, holderCost, capabilityCost, reworded, hcontrol, hholdings,
    hempty]

end Signals

namespace Level

/-- How severe the level of `ofScore` is, by the breakpoints that the score misses. -/
theorem severity_ofScore (score : Int) : (ofScore score).severity =
    if 80 ≤ score then 0 else if 60 ≤ score then 1 else if 40 ≤ score then 2 else 3 := by
  unfold ofScore
  by_cases hlow : 80 ≤ score
  · rw [if_pos hlow, if_pos hlow]
    rfl
  · rw [if_neg hlow, if_neg hlow]
    by_cases hmedium : 60 ≤ score
    · rw [if_pos hmedium, if_pos hmedium]
      rfl
    · rw [if_neg hmedium, if_neg hmedium]
      split
      · rfl
      · rfl

/-- `ofScore` of a lower score is no milder. -/
theorem severity_ofScore_antitone {score score' : Int} (h : score' ≤ score) :
    (ofScore score).severity ≤ (ofScore score').severity := by
  rw [severity_ofScore, severity_ofScore]
  -- Every breakpoint that the lower score reaches is reached by the higher one.
  repeat' split
  all_goals omega

end Level

namespace Signals

/-- Under the usual weights, riskier signals have no higher `score`, within 0 and 100, and their
level is no milder. What remarks and findings say, and in which order, changes neither score nor
level. -/
theorem score_antitone (s s' : Signals) (h : s.IsNoRiskierThan s') :
    s'.score {} ≤ s.score {} ∧ (0 ≤ s.score {} ∧ s.score {} ≤ 100) ∧
    (0 ≤ s'.score {} ∧ s'.score {} ≤ 100) ∧
    (Level.ofScore (s.score {})).severity ≤ (Level.ofScore (s'.score {})).severity ∧
    ∀ control holdings capabilities patterns : List String,
      control.length = s.ownership.risks.length → holdings.length = s.holders.risks.length →
      patterns.length = s.findings.proxyPatterns.length →
      (s.reworded control holdings capabilities patterns).score {} = s.score {} ∧
      Level.ofScore ((s.reworded control holdings capabilities patterns).score {}) =
        Level.ofScore (s.score {}) := by
  have hscore := score_le Weights.isPenal_default h
  -- The score is bounded, so only its order is left to be shown.
  refine ⟨hscore, s.score_bounds {}, s'.score_bounds {}, Level.severity_ofScore_antitone hscore, ?_⟩
  -- Counts are all that the score sees of the texts.
  intro control holdings capabilities patterns hcontrol hholdings hpatterns
  have hsame := score_reworded {} s control holdings capabilities patterns hcontrol hholdings
    hpatterns
  exact ⟨hsame, congrArg Level.ofScore hsame⟩

/-- A token of a group of signers with a few risks that count, just not enough for the cap. -/
def careful : Signals where
  standard := { isERC20 := true }
  ownership := { isMultisig := true, risks := ["Unknown or null owner"] }
  findings := { riskCount := 14 }

/-- A proxy of a single owner, with concentrated holdings and more risks than the cap counts. -/
def reckless : Signals where
  ownership := { isProxy := true, risks := [Ownership.proxyRisk, Ownership.singleOwnerRisk] }
  holders := {
    isConcentrated := true
    risks := ["Top holder owns 60.00% - extreme concentration",
      "Top 5 holders own 96.00% - highly concentrated",
      "Top 10 holders own 96.00% - effectively centralized"] }
  findings := { proxyPatterns := ["UUPS proxy detected"], riskCount := 16 }

/-- The lowest level turns into the highest one from `careful` to `reckless`, in whatever words the
first token is described. -/
theorem score_antitone_reckless :
    careful.IsNoRiskierThan reckless ∧ reckless.score {} ≤ careful.score {} ∧
      careful.score {} = 82 ∧ reckless.score {} = 10 ∧
      (Level.ofScore (careful.score {})).severity ≤ (Level.ofScore (reckless.score {})).severity ∧
      (careful.reworded ["Owner not known"] [] [] []).score {} = careful.score {} := by
  have h : careful.IsNoRiskierThan reckless := by
    constructor
    case isERC20 => decide
    case ownership => constructor <;> decide
    case holders => constructor <;> decide
    case findings => constructor <;> decide
  obtain ⟨hscore, _, _, hlevel, hreworded⟩ := Signals.score_antitone careful reckless h
  exact ⟨h, hscore, by decide, by decide, hlevel, (hreworded _ _ _ _ rfl rfl rfl).1⟩

end Signals

end TokenRisk
