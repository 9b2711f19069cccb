import TokenRisk.Proofs.Advice
import TokenRisk.Proofs.Resurvey
import TokenRisk.Proofs.Safety
import TokenRisk.Proofs.WellFormed

/-!
# When the advice agrees with the verdict

The advice on a token ends in a line for its level, and at the lowest level the line says that the
token appears to be safe. The verdict has more to go by: verified source, and holdings that are
spread. What it has against a token at the lowest level stands in the advice, too, as a line of its
own. So no single line agrees with the verdict, but the lines together do.

## Key results

- `Signals.appearsSafe_mem_iff`, `Signals.unsourced_mem_iff`, `Signals.concentrated_mem_iff`: what a
  line of advice says of the signals
- `Signals.spread_or_vouched_of_low`: what it takes to be at the lowest level with concentrated
  holdings
- `single_chain_advice_agrees`: how the advice in an answer agrees with the verdict
-/

namespace TokenRisk

/-! ## Lines of advice -/

namespace Signals

variable (s : Signals) (level : Level)

/-- The line that a token appears to be safe is in `Signals.advice` at the lowest level only. -/
theorem appearsSafe_mem_iff :
    "This token appears to be safe for interaction" ∈ s.advice level ↔ level = .low := by
  cases level <;> simp [advice, mem_adviceIf, Level.advice]

/-- The line about the source is in `Signals.advice` if the source is not verified. -/
theorem unsourced_mem_iff :
    "Do not interact - contract source is not verified" ∈ s.advice level ↔
      s.findings.unverifiedCode = true := by
  cases level <;> simp [advice, mem_adviceIf, Level.advice]

/-- The line about the holders is in `Signals.advice` if the holdings are concentrated. -/
theorem concentrated_mem_iff :
    "Liquidity risk - token is highly concentrated among few holders" ∈ s.advice level ↔
      s.holders.isConcentrated = true := by
  cases level <;> simp [advice, mem_adviceIf, Level.advice]

end Signals

/-! ## The lowest level with concentrated holdings -/

/-- Nothing speaks against a token but its holders, its single owner if it is not a group of
signers, and source that is not verified if it is not. -/
def Signals.crowded (isERC20 isMultisig unverified : Bool) : Signals where
  standard := { isERC20 }
  ownership := { isMultisig, risks := if isMultisig then [] else [Ownership.singleOwnerRisk] }
  holders := { isConcentrated := true }
  findings := {
    unverifiedCode := unverified
    riskCount := if unverified then 1 else 0 }

/-- Of all tokens with these flags and concentrated holdings, `crowded` is the least risky. -/
private theorem Signals.crowded_isNoRiskierThan {s : Signals}
    (hconcentrated : s.holders.isConcentrated = true)
    (hcontrol : s.ownership.isMultisig = false → s.ownership.risks ≠ [])
    (hcount : (if s.findings.unverifiedCode then 1 else 0) ≤ s.findings.riskCount) :
    (crowded s.standard.isERC20 s.ownership.isMultisig s.findings.unverifiedCode).IsNoRiskierThan
      s := by
  constructor
  case isERC20 => exact id
  case ownership =>
    refine ⟨?_, (fun h => by cases h), id⟩
    -- Who is no group of signers has a remark on it.
    cases hmultisig : s.ownership.isMultisig with
    | true => exact Nat.zero_le _
    | false => exact List.length_pos_iff.mpr (hcontrol hmultisig)
  case holders => exact ⟨Nat.zero_le _, fun _ => hconcentrated⟩
  case findings =>
    constructor
    case unverifiedCode => exact id
    case proxyPatterns => exact fun h => absurd rfl h
    case riskCount => exact hcount
    all_goals exact fun h => by cases h

/-- Of the `crowded` signals only those with verified source reach the lowest level, and only if the
token belongs to a group of signers or to the commonest standard. -/
private theorem Signals.crowded_reaches_low : ∀ isERC20 isMultisig unverified : Bool,
    80 ≤ (crowded isERC20 isMultisig unverified).score {} →
      unverified = false ∧ (isMultisig = true ∨ isERC20 = true) := by
  decide

namespace Analyzer

variable (a : Analyzer)

/-- At the `low` level with concentrated holdings there is verified source, and a group of signers
or the ERC-20 standard. -/
theorem sourced_of_concentrated (contract : Contract)
    (hconcentrated : (a.signalsOf contract).holders.isConcentrated = true)
    (hlow : Level.ofScore ((a.signalsOf contract).score {}) = .low) :
    (a.signalsOf contract).findings.unverifiedCode = false ∧
      ((a.signalsOf contract).ownership.isMultisig = true ∨
        (a.signalsOf contract).standard.isERC20 = true) := by
  have hcount : (if (a.findingsOf contract).unverifiedCode then 1 else 0) ≤
      (a.findingsOf contract).riskCount := by
    split
    · rename_i hunverified
      exact a.riskCount_findingsOf contract hunverified
    · rw [a.isSound_findingsOf contract]
      exact Int.natCast_nonneg _
  -- The signals are no less risky than crowded ones, so these reach the level, too.
  have hrisk := Signals.crowded_isNoRiskierThan hconcentrated
    (a.risks_ownershipOf_ne_nil contract) hcount
  have hscore := Signals.score_le Weights.isPenal_default hrisk
  exact Signals.crowded_reaches_low _ _ _
    (Int.le_trans ((Level.ofScore_eq_low_iff _).mp hlow) hscore)

/-- The `recommendations` of an analysis that could not run are one of two lines. -/
theorem recommendations_of_isFailed (address : Option String) (chainId : Int) (o : Outcome)
    (h : (a.analyze address chainId).value = .ok o) (hfailed : o.isFailed = true) :
    o.analysis.recommendations = [Analysis.failedAdvice] ∨
      o.analysis.recommendations = [Analysis.noContractAdvice] := by
  cases hcheck : Address.check a.scheme address with
  | error f => simp [analyze, hcheck] at h
  | ok check =>
    rw [a.value_analyze_of_check address chainId check hcheck] at h
    obtain rfl := Except.ok.inj h
    -- An address that is no address, or a chain that is not supported, is not fetched at all.
    split at hfailed
    · rename_i hvalid
      rw [if_pos hvalid]
      split at hfailed
      · rename_i hsupported
        rw [if_pos hsupported]
        simp only [analyzeValid, Timed.value_bind] at hfailed ⊢
        cases hfetch : (a.fetch (Text.lower (address.getD "")) chainId).value with
        | error f => exact .inl rfl
        | ok fetched =>
          simp only [hfetch] at hfailed ⊢
          split
          · exact .inl rfl
          · split
            · exact .inr rfl
            · -- There was code, so this is no placeholder.
              rename_i hnone hcontract
              simp only [hnone, hcontract, Timed.value_map, orUnexpected, isFailed_outcomeOf,
                Bool.false_eq_true, ↓reduceIte] at hfailed
      · rename_i hsupported
        rw [if_neg hsupported]
        exact .inl rfl
    · rename_i hvalid
      rw [if_neg hvalid]
      exact .inl rfl

end Analyzer

/-! ## Advice and verdict -/

/-- The advice on an analysis agrees with a `Decision`. -/
structure Analysis.IsAdvisedAs (x : Analysis) (d : Decision) : Prop where
  /-- It is safe exactly if the advice has the line that says so and neither of the others. -/
  isSafe : d.isSafe = true ↔
    "This token appears to be safe for interaction" ∈ x.recommendations ∧
      "Do not interact - contract source is not verified" ∉ x.recommendations ∧
      "Liquidity risk - token is highly concentrated among few holders" ∉ x.recommendations
  /-- What else holds where the line that says so stands beside the first of the others. -/
  unsourced : "This token appears to be safe for interaction" ∈ x.recommendations →
    "Do not interact - contract source is not verified" ∈ x.recommendations →
      x.signals.ownership.isMultisig = true ∧
        "Liquidity risk - token is highly concentrated among few holders" ∉ x.recommendations
  /-- What else holds where it stands beside the second. -/
  concentrated : "This token appears to be safe for interaction" ∈ x.recommendations →
    "Liquidity risk - token is highly concentrated among few holders" ∈ x.recommendations →
      x.signals.ownership.isMultisig = true ∨ x.signals.standard.isERC20 = true

namespace Analyzer

variable (a : Analyzer)

/-- The advice on `analysisOf` a contract agrees with the verdict on it. -/
private theorem isAdvisedAs_analysisOf (contract : Contract) (notes warnings : List String) :
    (a.analysisOf contract notes warnings (a.signalsOf contract)).IsAdvisedAs
      (Decision.decide (a.analysisOf contract notes warnings (a.signalsOf contract)) none) := by
  have hsafe := (a.signalsOf contract).appearsSafe_mem_iff
    (Level.ofScore ((a.signalsOf contract).score {}))
  have hsource := (a.signalsOf contract).unsourced_mem_iff
    (Level.ofScore ((a.signalsOf contract).score {}))
  have hholders := (a.signalsOf contract).concentrated_mem_iff
    (Level.ofScore ((a.signalsOf contract).score {}))
  constructor
  case isSafe =>
    rw [Decision.isSafe_decide_iff]
    -- The three conditions of the advice are those of the verdict, part by part.
    simp only [analysisOf, hsafe, hsource, hholders, Bool.not_eq_true]
    constructor
    · intro ⟨hsound, _⟩
      exact ⟨hsound.level, hsound.verified, hsound.spread⟩
    · intro ⟨hlow, hverified, hspread⟩
      exact ⟨⟨rfl, hlow, hverified, hspread⟩, by simp⟩
  case unsourced =>
    simp only [analysisOf, hsafe, hsource, hholders]
    intro hlow hunverified
    refine ⟨a.isMultisig_of_unverified contract hunverified hlow, fun hconcentrated => ?_⟩
    -- With both against it, the token would not be at the lowest level.
    have hverified := (a.sourced_of_concentrated contract hconcentrated hlow).1
    rw [hunverified] at hverified
    cases hverified
  case concentrated =>
    -- At the lowest level concentrated holders leave room for little else.
    simp only [analysisOf, hsafe, hholders]
    intro hlow hconcentrated
    exact (a.sourced_of_concentrated contract hconcentrated hlow).2

/-- Whatever `analyze` comes to, its advice agrees with the verdict on it. -/
theorem isAdvisedAs_of_analyze (address : Option String) (chainId : Int) (o : Outcome)
    (h : (a.analyze address chainId).value = .ok o) :
    o.analysis.IsAdvisedAs (Decision.decide o.analysis none) := by
  rcases a.analyze_cases address chainId o h with
    ⟨text, f, warnings, advice, ho⟩ | ⟨check, _, _, _, _, warnings, rfl⟩
  · have hfailed : o.isFailed = true := by rw [ho]; rfl
    -- A placeholder is denied everything, and its one line of advice is none of these.
    have hdenied := ((a.analyze_isWellFormed address chainId o h).failed hfailed).allFalse none
    have hnot : "This token appears to be safe for interaction" ∉ o.analysis.recommendations := by
      rcases a.recommendations_of_isFailed address chainId o h hfailed with hline | hline
      · rw [hline]
        decide
      · rw [hline]
        decide
    refine ⟨?_, fun hsafe => absurd hsafe hnot, fun hsafe => absurd hsafe hnot⟩
    rw [hdenied.1]
    exact ⟨(fun hsafe => by cases hsafe), fun hsafe => absurd hsafe.1 hnot⟩
  · rw [analysis_outcomeOf]
    exact a.isAdvisedAs_analysisOf _ _ _

end Analyzer

/-! ## Histories -/

/-- The advice in an answer agrees with its verdict, and without an analysis it is denied. -/
structure Verification.IsAdvisedAsDecided (a : Verification) : Prop where
  advised : ∀ x, a.analysis = some x → x.IsAdvisedAs a.decision
  denied : a.analysis = none → a.decision.isSafe = false

namespace Scene

variable (c : Scene)

/-- The advice in what `work` on a request for a single chain comes to agrees with its verdict. -/
private theorem isAdvisedAsDecided_of_work (id : String) (r : Request) (a : Verification)
    (o : Outcome) (hsingle : r.crossChain = false)
    (h : (c.verifier.work id r).value = .ok (a, o)) : a.IsAdvisedAsDecided := by
  obtain ⟨⟨address, _, hvalue, _⟩, survey, rfl, hsurveyed⟩ := c.work_eq_ok id r a o h
  cases survey with
  | some survey => exact absurd (hsingle.symm.trans hsurveyed.1) Bool.false_ne_true
  | none =>
    refine ⟨fun x hx => ?_, fun hnone => by cases hnone⟩
    rw [← Option.some.inj hx]
    exact c.analyzer.isAdvisedAs_of_analyze _ _ o hvalue

/-- `IsAdvisedAsDecided` holds of an answer to a request for a single chain, if it does of the
answers that are kept for the request. -/
private theorem isAdvisedAsDecided_of_answered {P : String → Verification → Prop} (r : Request)
    (a : Verification) (hsingle : r.crossChain = false) (h : c.verifier.Answered P r a)
    (hkept : ∀ b, P (c.verifier.keyOf r) b → b.IsAdvisedAsDecided) : a.IsAdvisedAsDecided := by
  cases h with
  | kept id b hb => exact ⟨(hkept b hb).advised, (hkept b hb).denied⟩
  | worked id _ o hwork => exact c.isAdvisedAsDecided_of_work id r a o hsingle hwork
  | failed id id' f hwork => exact ⟨fun x hx => (by cases hx), fun _ => rfl⟩

end Scene

/-- Settings and sources may change from one `Occasion` to the next, and there may or may not be a
cache. Still the advice in every answer to a request for a single chain agrees with its verdict. -/
theorem single_chain_advice_agrees (history : List Occasion) (s : Session) (hfresh : s.IsFresh)
    (i j : Nat) (x : Occasion) (r : Request) (effect : Effect) (a : Verification)
    (hx : history[i]? = some x) (hr : (x.scene.verifier.requestsOf x.action)[j]? = some r)
    (hsingle : r.crossChain = false)
    (heffect : (s.run (history.map Occasion.event)).1[i]? = some effect)
    (ha : effect.answers[j]? = some a) : a.IsAdvisedAsDecided := by
  obtain ⟨e, he, r', hr', hanswered⟩ := answers_run_in_place _ s hfresh i j effect a heffect ha
  rw [List.getElem?_map, hx, Option.map_some] at he
  obtain rfl := Option.some.inj he
  obtain rfl : r = r' := Option.some.inj (hr.symm.trans hr')
  refine x.scene.isAdvisedAsDecided_of_answered r a hsingle hanswered fun b hb => ?_
  -- A kept answer was worked out under the same key, which tells that it was for a single chain.
  obtain ⟨e', he', r', _, hkey, id, o, hwork, _⟩ := hb.2
  rw [← List.map_take, List.mem_map] at he'
  obtain ⟨x', _, rfl⟩ := he'
  have hcross : r'.crossChain = r.crossChain := (Verifier.cacheKey_inj _ _ _ _ _ _ hkey).2.2
  exact x'.scene.isAdvisedAsDecided_of_work id r' b o (hcross.trans hsingle) hwork

/-! ## A token that is vouched for -/

/-- The `Scene` around the token of `Sources.vouched`, which has no source and belongs to a group of
signers. -/
def Scene.vouched : Scene :=
  { Scene.plain (.ok []) 0 with analyzer := Circumstances.vouchedAnalyzer }

/-- The token of `Scene.vouched` is asked for twice. -/
def Occasion.vouchedTwice : List Occasion :=
  [⟨.vouched, .verify .plain⟩, ⟨.vouched, .verify .plain⟩]

namespace Scene

/-- `work` finds the token at the lowest level, and its advice is that of its signals. -/
private theorem work_vouched (id : String) : ∃ a o,
    (vouched.verifier.work id .plain).value = .ok (a, o) ∧ o.isSettled = true ∧
      a.decision.isSafe = false ∧
      ∃ x, a.analysis = some x ∧ x.recommendations = Signals.vouched.advice .low := by
  have hlow : Level.ofScore (Signals.vouched.score {}) = .low := by decide
  obtain ⟨warnings, hvalue⟩ := Circumstances.vouchedAnalyzer.analyze_plainAddress
    (show Chain.isSupported 1 = true by decide) rfl (Analyzer.isRecorded_ok _)
  rw [Circumstances.contractOf_vouched,
    Circumstances.signalsOf_vouched (show (1 : Int) ∈ [(1 : Int), 56] by decide)] at hvalue
  have hwork := value_work_of_single vouched id .plain rfl
  rw [show vouched.chainOf .plain = 1 from rfl,
    show Request.plain.tokenAddress = some Sources.plainAddress from rfl,
    show vouched.analyzer = Circumstances.vouchedAnalyzer from rfl, hvalue] at hwork
  refine ⟨_, _, hwork, Analyzer.isSettled_outcomeOf _ _ _ warnings _, ?_, _, rfl, ?_⟩
  -- Its source is not verified, so it is not safe.
  · show (Decision.decide _ none).isSafe = false
    rw [← Bool.not_eq_true, Decision.isSafe_decide_iff, Analyzer.analysis_outcomeOf]
    intro ⟨hsound, _⟩
    exact Bool.noConfusion hsound.verified
  · rw [Analyzer.analysis_outcomeOf]
    show Signals.vouched.advice (Level.ofScore (Signals.vouched.score {})) = _
    rw [hlow]

/-- The second answer of `Occasion.vouchedTwice` is recalled. It advises to interact and not to, and
denies the token. -/
private theorem second_of_vouchedTwice : ∃ effect a x,
    (Session.hourly.run (Occasion.vouchedTwice.map Occasion.event)).1[1]? = some effect ∧
      effect.answers[0]? = some a ∧ a.decision.isSafe = false ∧ a.analysis = some x ∧
      x.recommendations = Signals.vouched.advice .low := by
  have hlive : vouched.verifier.clock.lt
      (vouched.verifier.clock.add (Number.whole 3600).toBinary64) = true := by decide +kernel
  -- The first answer is found under the key of the second request.
  obtain ⟨id, a, o, hao, _, hfound⟩ := vouched.verifier.lookUp_verify vouched.verifier .plain .plain
    .hourly _ rfl (by decide) (Verifier.lookUp_of_isFresh _ .plain _ Session.isFresh_hourly) rfl
    fun id => by
      obtain ⟨a, o, hao, hsettled, _⟩ := work_vouched id
      exact ⟨a, o, hao, hsettled⟩
  obtain ⟨a', o', hao', _, hdenied, x, hx, hadvice⟩ := work_vouched id
  obtain ⟨rfl, rfl⟩ := Prod.mk.inj (Except.ok.inj (hao.symm.trans hao'))
  obtain ⟨id', hverify⟩ := vouched.verifier.verify_of_found .plain _ a
    (hfound.trans (if_pos hlive))
  obtain ⟨effect, heffect, hanswers⟩ := Session.run_verify_pair _ _ _ _ _ _ hverify
  exact ⟨effect, { a with requestId := id' }, x, heffect, by rw [hanswers]; rfl, hdenied, hx,
    hadvice⟩

/-- In the second answer of `Occasion.vouchedTwice` the advice says that the token appears to be
safe, and not to interact with it, and the verdict is that it is not safe. -/
theorem token_appears_safe_and_is_denied : ∃ effect a x,
    (Session.hourly.run (Occasion.vouchedTwice.map Occasion.event)).1[1]? = some effect ∧
      effect.answers[0]? = some a ∧ a.analysis = some x ∧
      "This token appears to be safe for interaction" ∈ x.recommendations ∧
      "Do not interact - contract source is not verified" ∈ x.recommendations ∧
      a.decision.isSafe = false := by
  obtain ⟨effect, a, x, heffect, ha, hdenied, hx, hadvice⟩ := second_of_vouchedTwice
  refine ⟨effect, a, x, heffect, ha, hx, ?_, ?_, hdenied⟩
  · rw [hadvice, Signals.appearsSafe_mem_iff]
  · rw [hadvice, Signals.unsourced_mem_iff]
    rfl

/-- Still the second answer `IsAdvisedAsDecided`, and there is a group behind the token. -/
theorem recalled_advice_agrees : ∃ effect a x,
    Occasion.vouchedTwice[1]?.map (fun y => y.scene.verifier.requestsOf y.action) =
        some [.plain] ∧ Request.plain.crossChain = false ∧
      (Session.hourly.run (Occasion.vouchedTwice.map Occasion.event)).1[1]? = some effect ∧
      effect.answers[0]? = some a ∧ a.IsAdvisedAsDecided ∧ a.analysis = some x ∧
      x.signals.ownership.isMultisig = true := by
  obtain ⟨effect, a, x, heffect, ha, _, hx, hadvice⟩ := second_of_vouchedTwice
  have hagrees := single_chain_advice_agrees Occasion.vouchedTwice .hourly Session.isFresh_hourly
    1 0 _ .plain effect a rfl rfl rfl heffect ha
  -- The advice calls the token safe, and warns of its source all the same.
  have hsafe : "This token appears to be safe for interaction" ∈ x.recommendations := by
    rw [hadvice, Signals.appearsSafe_mem_iff]
  have hunsourced : "Do not interact - contract source is not verified" ∈ x.recommendations := by
    rw [hadvice, Signals.unsourced_mem_iff]
    rfl
  exact ⟨effect, a, x, rfl, rfl, heffect, ha, hagrees, hx,
    ((hagrees.advised x hx).unsourced hsafe hunsourced).1⟩

end Scene

end TokenRisk
