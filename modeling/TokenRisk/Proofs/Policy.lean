import TokenRisk.Proofs.Decision
import TokenRisk.Proofs.Distinct

/-!
# The policy behind verdicts

A verdict is worked out rule by rule, and some rules hold only if no earlier one did. What comes of
it is described here field by field: when a token is safe, when someone has to approve, which reason
is given and which risks have to be named. Denial is the default, so an analysis with an error is
denied everything, and other chains can only take safety away.

## Key results

- `Decision.hasError_iff`, `Decision.decide_of_hasError`: analyses with an error
- `Decision.mem_risks_decide_iff`: the risks that a verdict names
- `Decision.followsPolicy_decide`: the verdicts on all analyses without an error
- `Decision.decide_follows_policy`: both, and what a survey adds
-/

namespace TokenRisk.Decision

/-! ## Errors -/

theorem hasError_iff (a : Analysis) : a.hasError = true ↔ ∃ e, a.error = some e ∧ e ≠ "" := by
  cases herror : a.error with
  | none => simp [Analysis.hasError, herror]
  | some e => simp [Analysis.hasError, herror]

/-- `decide` denies an analysis with an error everything, with the error as its risk and its
reason. -/
theorem decide_of_hasError (a : Analysis) (survey : Option Survey) (e : String)
    (herror : a.error = some e) (hne : e ≠ "") :
    decide a survey =
      { isSafe := false, canAutomate := false, requiresApproval := false
        risks := ["Verification Error: " ++ e], reason := "Cannot verify token: " ++ e } := by
  have h : a.hasError = true := (hasError_iff a).mpr ⟨e, herror, hne⟩
  rw [decide, if_pos h, herror]
  rfl

/-! ## The fields of a verdict -/

section Fields

variable {a : Analysis} {survey : Option Survey}

/-- `requiresApproval` holds on the two levels in the middle, and for concentrated holdings. -/
theorem requiresApproval_decide_iff (h : a.hasError = false) :
    (decide a survey).requiresApproval = true ↔
      a.level = .medium ∨ a.level = .high ∨ a.signals.holders.isConcentrated = true := by
  simp only [decide, h, Bool.false_eq_true, ↓reduceIte, Bool.or_eq_true, beq_iff_eq]
  rw [or_comm (a := a.level = .high), or_assoc]

/-- Since what is safe may be automated, the reason depends on `isSafe` and `requiresApproval`
alone. -/
theorem reason_decide (h : a.hasError = false) :
    (decide a survey).reason =
      if (decide a survey).isSafe then "Token appears safe for automated transactions"
      else if (decide a survey).requiresApproval then "Token has risks and requires approval"
      else "Token is not safe to interact with" := by
  have hreason : (decide a survey).reason = reasonFor (decide a survey).isSafe
      (decide a survey).canAutomate (decide a survey).requiresApproval := by
    simp only [decide, h, Bool.false_eq_true, ↓reduceIte]
  rw [hreason, canAutomate_decide, reasonFor]
  split
  · rfl
  · rfl

/-- `decide` names each risk once. -/
theorem nodup_risks_decide (h : a.hasError = false) : (decide a survey).risks.Nodup := by
  simp only [decide, h, Bool.false_eq_true, ↓reduceIte]
  exact nodup_distinct _

end Fields

/-! ## The risks of a verdict -/

/-- No chain of a survey, if there is one, speaks against the token. -/
def IsUnopposed (survey : Option Survey) : Prop :=
  ∀ s, survey = some s → IsClean s

/-- The risks that a verdict names. What the level and the survey speak against is not held against
the token a second time for its source or its holders. -/
inductive IsNamed (a : Analysis) (survey : Option Survey) : String → Prop where
  | level (r : String) : levelRisk? a.level = some r → IsNamed a survey r
  | finding (r : String) : r ∈ a.signals.findings.risks → IsNamed a survey r
  | elsewhere (s : Survey) (r : String) : survey = some s → r ∈ surveyRisks s →
    IsNamed a survey r
  | unverified : a.level = .low → IsUnopposed survey →
    a.signals.findings.unverifiedCode = true →
    IsNamed a survey "Unverified contract source code"
  | concentrated : a.level = .low → IsUnopposed survey →
    a.signals.findings.unverifiedCode = false → a.signals.holders.isConcentrated = true →
    IsNamed a survey "Highly concentrated token holdings"
  | doubt : a.level = .low → (decide a survey).isSafe = false →
    IsNamed a survey "Unable to verify token safety with confidence"

private theorem surveyRisks_eq_nil (survey : Option Survey) :
    (survey.map surveyRisks).getD [] = [] ↔ IsUnopposed survey := by
  cases survey with
  | none => simp [IsUnopposed]
  | some s => simp [IsUnopposed, surveyRisks_eq_nil_iff]

/-- Which risks `decide` names, rule by rule in the order in which the rules are applied. -/
private theorem mem_risks_decide (a : Analysis) (survey : Option Survey) (h : a.hasError = false)
    (r : String) : r ∈ (decide a survey).risks ↔
      levelRisk? a.level = some r ∨ r ∈ a.signals.findings.risks ∨
        r ∈ (survey.map surveyRisks).getD [] ∨
        ((a.level = .low ∧ IsUnopposed survey) ∧ a.signals.findings.unverifiedCode = true) ∧
          r = "Unverified contract source code" ∨
        (((a.level = .low ∧ IsUnopposed survey) ∧ a.signals.findings.unverifiedCode = false) ∧
          a.signals.holders.isConcentrated = true) ∧ r = "Highly concentrated token holdings" ∨
        (a.level = .low ∧ (decide a survey).isSafe = false) ∧
          r = "Unable to verify token safety with confidence" := by
  have hsafe : (decide a survey).isSafe = (a.level == .low &&
      ((survey.map surveyRisks).getD []).isEmpty && !a.signals.findings.unverifiedCode &&
        !a.signals.holders.isConcentrated) := by
    -- The verdict is safe where each of the conditions of the three last risks fails.
    simp only [decide, h, Bool.false_eq_true, ↓reduceIte]
  rw [hsafe]
  simp only [decide, h, Bool.false_eq_true, ↓reduceIte, mem_distinct, List.mem_append,
    Option.mem_toList, mem_adviceIf, Bool.and_eq_true, beq_iff_eq, List.isEmpty_iff,
    surveyRisks_eq_nil, Bool.not_eq_eq_eq_not, Bool.not_true, or_assoc]

/-- The risks that `decide` names are those of which `IsNamed` holds. -/
theorem mem_risks_decide_iff (a : Analysis) (survey : Option Survey) (h : a.hasError = false)
    (r : String) : r ∈ (decide a survey).risks ↔ IsNamed a survey r := by
  rw [mem_risks_decide a survey h]
  constructor
  · -- Each list of risks is one way to be named, in the order in which they are put together.
    rintro (hr | hr | hr | ⟨⟨⟨hlow, hnone⟩, hhere⟩, rfl⟩ |
      ⟨⟨⟨⟨hlow, hnone⟩, hverified⟩, hhere⟩, rfl⟩ | ⟨⟨hlow, hdenied⟩, rfl⟩)
    · exact .level r hr
    · exact .finding r hr
    · cases survey with
      | none => cases hr
      | some s => exact .elsewhere s r rfl hr
    · exact .unverified hlow hnone hhere
    · exact .concentrated hlow hnone hverified hhere
    · exact .doubt hlow hdenied
  · intro hnamed
    cases hnamed with
    | level r hr => exact .inl hr
    | finding r hr => exact .inr (.inl hr)
    | elsewhere s r hs hr => subst hs; exact .inr (.inr (.inl hr))
    | unverified hlow hnone hhere => simp [hlow, hnone, hhere]
    | concentrated hlow hnone hverified hhere => simp [hlow, hnone, hverified, hhere]
    | doubt hlow hdenied => simp [hlow, hdenied]

/-- `decide` names a risk for what is not safe, be it only that doubt remains. -/
theorem risks_decide_ne_nil (a : Analysis) (survey : Option Survey) (h : a.hasError = false)
    (hdenied : (decide a survey).isSafe = false) : (decide a survey).risks ≠ [] := by
  have hnamed : ∃ r, IsNamed a survey r := by
    by_cases hlow : a.level = .low
    · exact ⟨_, .doubt hlow hdenied⟩
    · -- Every other level is a risk by itself.
      cases hlevel : a.level with
      | low => exact absurd hlevel hlow
      | medium => exact ⟨_, .level _ (by rw [hlevel]; rfl)⟩
      | high => exact ⟨_, .level _ (by rw [hlevel]; rfl)⟩
      | critical => exact ⟨_, .level _ (by rw [hlevel]; rfl)⟩
  obtain ⟨r, hr⟩ := hnamed
  exact List.ne_nil_of_mem ((mem_risks_decide_iff a survey h r).mpr hr)

/-! ## The policy -/

/-- What the policy says of the verdict on an analysis without an error, and on a survey if there is
one. -/
structure FollowsPolicy (a : Analysis) (survey : Option Survey) (d : Decision) : Prop where
  isSafe : d.isSafe = true ↔
    a.level = .low ∧ a.signals.findings.unverifiedCode = false ∧
      a.signals.holders.isConcentrated = false ∧
      ∀ s, survey = some s → s.highRisk = 0 ∧ 0 < s.found ∧ 0 < s.verified
  canAutomate : d.canAutomate = d.isSafe
  requiresApproval : d.requiresApproval = true ↔
    a.level = .medium ∨ a.level = .high ∨ a.signals.holders.isConcentrated = true
  reason : d.reason =
    if d.isSafe then "Token appears safe for automated transactions"
    else if d.requiresApproval then "Token has risks and requires approval"
    else "Token is not safe to interact with"
  nodup : d.risks.Nodup
  mem_iff : ∀ r, r ∈ d.risks ↔ IsNamed a survey r
  findings : ∀ r ∈ a.signals.findings.risks, r ∈ d.risks
  risks_ne_nil : d.isSafe = false → d.risks ≠ []

/-- No count of a survey is negative. -/
structure Counts (s : Survey) : Prop where
  found : 0 ≤ s.found
  verified : 0 ≤ s.verified
  highRisk : 0 ≤ s.highRisk

theorem Counts.isClean_iff {s : Survey} (h : Counts s) :
    IsClean s ↔ s.highRisk = 0 ∧ 0 < s.found ∧ 0 < s.verified := by
  obtain ⟨hfound, hverified, hhigh⟩ := h
  constructor
  · intro ⟨hnone, hsome, hsomeVerified⟩
    omega
  · intro ⟨hnone, hsome, hsomeVerified⟩
    constructor <;> omega

/-- Without an error, `decide` follows the policy. -/
theorem followsPolicy_decide (a : Analysis) (survey : Option Survey) (h : a.hasError = false)
    (hcounts : ∀ s, survey = some s → Counts s) : FollowsPolicy a survey (decide a survey) where
  isSafe := by
    -- What a survey counts is told by its records, so the conditions may be read off its numbers.
    have hclean : (∀ s, survey = some s → IsClean s) ↔
        ∀ s, survey = some s → s.highRisk = 0 ∧ 0 < s.found ∧ 0 < s.verified :=
      forall_congr' fun s => forall_congr' fun hs => (hcounts s hs).isClean_iff
    rw [isSafe_decide_iff, hclean]
    constructor
    · intro ⟨hsound, hsurvey⟩
      exact ⟨hsound.level, hsound.verified, hsound.spread, hsurvey⟩
    · intro ⟨hlevel, hverified, hspread, hsurvey⟩
      exact ⟨⟨h, hlevel, hverified, hspread⟩, hsurvey⟩
  canAutomate := canAutomate_decide a survey
  requiresApproval := requiresApproval_decide_iff h
  reason := reason_decide h
  nodup := nodup_risks_decide h
  mem_iff := mem_risks_decide_iff a survey h
  findings r hr := (mem_risks_decide_iff a survey h r).mpr (.finding r hr)
  risks_ne_nil := risks_decide_ne_nil a survey h

/-- What `decide` calls safe with a survey it calls safe without it. -/
theorem isSafe_of_isSafe_surveyed (a : Analysis) (s : Survey)
    (h : (decide a (some s)).isSafe = true) : (decide a none).isSafe = true := by
  rw [isSafe_decide_iff] at h ⊢
  exact ⟨h.1, fun _ hnone => by cases hnone⟩

/-- `decide` denies an analysis with an error everything, judges any other one by the policy, and
calls no token safe for a survey. -/
theorem decide_follows_policy (a : Analysis) (survey : Option Survey)
    (hcounts : ∀ s, survey = some s → Counts s) :
    (∀ e, a.error = some e → e ≠ "" → decide a survey =
      { isSafe := false, canAutomate := false, requiresApproval := false
        risks := ["Verification Error: " ++ e], reason := "Cannot verify token: " ++ e }) ∧
    ((∀ e, a.error = some e → e = "") → FollowsPolicy a survey (decide a survey)) ∧
    ((decide a none).isSafe = false → ∀ s, (decide a (some s)).isSafe = false) := by
  refine ⟨decide_of_hasError a survey, fun hnone => ?_, fun hdenied s => ?_⟩
  · have h : a.hasError = false := by
      rw [← Bool.not_eq_true, hasError_iff]
      intro ⟨e, herror, hne⟩
      exact hne (hnone e herror)
    exact followsPolicy_decide a survey h hcounts
  · -- A survey only adds conditions, so what it lets pass is safe without it as well.
    rw [← Bool.not_eq_true]
    intro hsafe
    rw [isSafe_of_isSafe_surveyed a s hsafe] at hdenied
    cases hdenied

/-- An analysis at the lowest level, of a token with an empty error and holdings that are
concentrated. -/
def concentrated : Analysis where
  tokenAddress := "0x1111111111111111111111111111111111111111"
  chainId := 1
  timestamp := ""
  isContract := true
  signals := {
    holders := { risks := ["Top holder owns 40.00% - high concentration"], isConcentrated := true }
    findings := { risks := ["Not verified on any chain"], riskCount := 1 } }
  score := 80
  level := .low
  error := some ""

/-- A survey that found a token on two chains, at a high risk on one, and verified it on none. -/
def unverifiedOnTwo : Survey where
  baseAddress := "0x1111111111111111111111111111111111111111"
  baseChainId := 1
  found := 2
  highRisk := 1
  timestamp := ""

/-- For `concentrated` the lowest level is not enough: approval is asked for, and a risk that is
found twice is named once. -/
theorem decide_follows_policy_concentrated :
    (∀ s, some unverifiedOnTwo = some s → Counts s) ∧
      FollowsPolicy concentrated (some unverifiedOnTwo)
        (decide concentrated (some unverifiedOnTwo)) ∧
      decide concentrated (some unverifiedOnTwo) =
        { isSafe := false, canAutomate := false, requiresApproval := true
          risks := ["Not verified on any chain", "High risk on 1 chain(s)",
            "Unable to verify token safety with confidence"]
          reason := "Token has risks and requires approval" } := by
  have hcounts : ∀ s, some unverifiedOnTwo = some s → Counts s := by
    intro s hs
    rw [← Option.some.inj hs]
    exact ⟨by decide, by decide, by decide⟩
  -- The analysis has an error, but an empty one, which does not count.
  have hpolicy := decide_follows_policy concentrated (some unverifiedOnTwo) hcounts
  exact ⟨hcounts, hpolicy.2.1 fun e he => (Option.some.inj he).symm, by decide +kernel⟩

end TokenRisk.Decision
