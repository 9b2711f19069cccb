import TokenRisk.Decision

/-!
# When a verdict is positive

A verdict is positive exactly when nothing speaks against the token: `isSafe_decide_iff` lists what
must hold of the analysis and of the survey. Whatever is safe may be automated and the other way
round.
-/

namespace TokenRisk.Decision

/-- Nothing that a survey found speaks against the token: `surveyRisks` has nothing to add. -/
structure IsClean (s : Survey) : Prop where
  highRisk : ¬ 0 < s.highRisk
  found : s.found ≠ 0
  verified : s.verified ≠ 0

/-- Nothing that an analysis found speaks against the token. -/
structure IsSound (a : Analysis) : Prop where
  hasError : a.hasError = false
  level : a.level = .low
  verified : a.signals.findings.unverifiedCode = false
  spread : a.signals.holders.isConcentrated = false

/-- `surveyRisks` adds no risk exactly when the survey is clean. -/
theorem surveyRisks_eq_nil_iff (s : Survey) : surveyRisks s = [] ↔ IsClean s := by
  constructor
  · intro h
    obtain ⟨hhigh, hrest⟩ := List.append_eq_nil_iff.mp h
    refine ⟨fun hpos => ?_, fun hzero => ?_, fun hzero => ?_⟩
    · simp [hpos] at hhigh
    · simp [hzero] at hrest
    · by_cases hf : s.found = 0 <;> simp [hf, hzero] at hrest
  · intro ⟨hhigh, hfound, hverified⟩
    simp [surveyRisks, hhigh, hfound, hverified]

/-- `decide` comes to a safe verdict exactly on a sound analysis and a clean survey, if there is
one. -/
theorem isSafe_decide_iff (a : Analysis) (survey : Option Survey) :
    (decide a survey).isSafe = true ↔ IsSound a ∧ ∀ s, survey = some s → IsClean s := by
  cases herr : a.hasError with
  | true =>
    simp only [decide, herr, ↓reduceIte, ofError, Bool.false_eq_true, false_iff]
    exact fun h => Bool.noConfusion (herr.symm.trans h.1.hasError)
  | false =>
    simp only [decide, herr, Bool.false_eq_true, ↓reduceIte, Bool.and_eq_true, beq_iff_eq,
      Bool.not_eq_eq_eq_not, Bool.not_true, List.isEmpty_iff]
    -- Without an error the verdict is a conjunction of four checks, and the survey's is one of
    -- them.
    constructor
    · intro ⟨⟨⟨hlow, hclean⟩, hverified⟩, hspread⟩
      refine ⟨⟨herr, hlow, hverified, hspread⟩, ?_⟩
      rintro s rfl
      exact (surveyRisks_eq_nil_iff s).mp hclean
    · intro ⟨⟨_, hlow, hverified, hspread⟩, hclean⟩
      refine ⟨⟨⟨hlow, ?_⟩, hverified⟩, hspread⟩
      cases survey with
      | none => rfl
      | some s => exact (surveyRisks_eq_nil_iff s).mpr (hclean s rfl)

/-- What `decide` calls safe may be automated, and nothing else. -/
theorem canAutomate_decide (a : Analysis) (survey : Option Survey) :
    (decide a survey).canAutomate = (decide a survey).isSafe := by
  simp only [decide]
  split
  · rfl
  · cases a.level == .low <;> cases a.signals.findings.unverifiedCode <;> simp

end TokenRisk.Decision
