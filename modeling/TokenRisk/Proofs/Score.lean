import TokenRisk.ForStd.Except
import TokenRisk.Score

/-!
# What signals cost

A score is a fixed start less the costs of its signals. What costs more scores less
(`Signals.score_le_of_costs`), and a lower score never has a lower level. The costs of control and
of holders depend on nothing else and are named here.
-/

namespace TokenRisk

/-! ## The cost of control -/

namespace Ownership

/-- The points that a score loses over the ownership of a contract. -/
def cost (o : Ownership) : Int :=
  Signals.ownershipCost {} { ownership := o }

/-- An assessment, or the cautious default. -/
def orFailed (x : Except Failure Ownership) : Ownership :=
  x.toOption.getD { risks := [failedRisk] }

/-- The `cost` of a single remark is that of a single owner. -/
theorem cost_of_remark (remark : String) : cost { risks := [remark] } = 5 := rfl

/-- The `cost` of an assessment by what it found: a proxy, a single owner or a group, an unknown
owner. -/
theorem cost_assessed (o : Ownership)
    (hrisks : o.risks = risksOf o.isProxy o.isMultisig o.owner) :
    o.cost = (if o.isProxy then 20 else 0) + (if o.isMultisig then -10 else 5) +
      (if o.owner.all (· == Address.zero) then 5 else 0) := by
  simp only [cost, Signals.ownershipCost, pointsIf, hrisks, risksOf, List.length_append]
  cases o.isProxy <;> cases o.isMultisig <;> cases o.owner.all (· == Address.zero) <;> rfl

/-- The contract behind a proxy, from the code or from the explorer. -/
def behind (contract : Contract) : Except Failure (Option String) :=
  match embeddedImplementation? contract.codeHex with
  | some a => .ok (some (Text.lower a))
  | none => loweredText? contract.implementation

private theorem assess_eq (contract : Contract) (creator label : Json) :
    assess contract creator label =
      isMultisigLabel label >>= fun isMultisig => loweredText? creator >>= fun owner =>
        behind contract >>= fun implementation => .ok {
          owner, isMultisig, isProxy := isMinimalProxy contract.codeHex, implementation
          ownerLabel := if label.isTruthy then some label.display else none
          risks := risksOf (isMinimalProxy contract.codeHex) isMultisig owner } := by
  simp only [assess, behind]
  cases embeddedImplementation? contract.codeHex <;> rfl

/-- What an assessment found, item by item. -/
structure IsAssessed (contract : Contract) (creator label : Json) (o : Ownership) : Prop where
  isMultisig : isMultisigLabel label = .ok o.isMultisig
  owner : loweredText? creator = .ok o.owner
  isProxy : o.isProxy = isMinimalProxy contract.codeHex
  implementation : behind contract = .ok o.implementation
  risks : o.risks = risksOf o.isProxy o.isMultisig o.owner

/-- What `assess` comes to `IsAssessed`. -/
theorem isAssessed_of_ok (contract : Contract) (creator label : Json) (o : Ownership)
    (h : assess contract creator label = .ok o) : IsAssessed contract creator label o := by
  rw [assess_eq] at h
  obtain ⟨isMultisig, hmultisig, h⟩ := Except.bind_eq_ok_iff.mp h
  obtain ⟨owner, howner, h⟩ := Except.bind_eq_ok_iff.mp h
  obtain ⟨implementation, hbehind, h⟩ := Except.bind_eq_ok_iff.mp h
  cases h
  exact ⟨hmultisig, howner, rfl, hbehind, rfl⟩

/-- What `assess` comes to with a label it comes to without. -/
private theorem assess_null_of_ok (contract : Contract) (creator label : Json) (o : Ownership)
    (h : assess contract creator label = .ok o) : ∃ o', assess contract creator .null = .ok o' := by
  rw [assess_eq] at h
  obtain ⟨isMultisig, _, h⟩ := Except.bind_eq_ok_iff.mp h
  obtain ⟨owner, howner, h⟩ := Except.bind_eq_ok_iff.mp h
  obtain ⟨implementation, hbehind, _⟩ := Except.bind_eq_ok_iff.mp h
  rw [assess_eq, show isMultisigLabel .null = .ok false from rfl, howner, hbehind]
  exact ⟨_, rfl⟩

/-- A creator without a label is taken by `assess` for a single owner, which never costs less than
what the label says. -/
theorem cost_assess_le (contract : Contract) (creator label : Json) :
    cost (orFailed (assess contract creator label)) ≤
      cost (orFailed (assess contract creator .null)) := by
  cases hnull : assess contract creator .null with
  | error f =>
    -- If the assessment fails without a label, it fails with any.
    cases hlabel : assess contract creator label with
    | error f' => exact Int.le_refl _
    | ok o =>
      obtain ⟨o', ho'⟩ := assess_null_of_ok contract creator label o hlabel
      rw [hnull] at ho'
      cases ho'
  | ok o' =>
    -- Without a label, the owner counts as a single one.
    obtain ⟨hmultisig', howner', hproxy', _, hrisks'⟩ := isAssessed_of_ok _ _ _ _ hnull
    have hsingle : o'.isMultisig = false := (Except.ok.inj hmultisig').symm
    have hcost' := cost_assessed o' hrisks'
    simp only [orFailed, Except.toOption, Option.getD_some, hcost', hsingle, Bool.false_eq_true,
      ↓reduceIte]
    -- The label takes the place of a single owner by a group, or makes the assessment fail.
    cases hlabel : assess contract creator label with
    | error f =>
      simp only [Option.getD_none, cost_of_remark]
      split <;> split <;> omega
    | ok o =>
      obtain ⟨_, howner, hproxy, _, hrisks⟩ := isAssessed_of_ok _ _ _ _ hlabel
      have hcost := cost_assessed o hrisks
      rw [hproxy', Except.ok.inj (howner'.symm.trans howner)]
      rw [hproxy] at hcost
      simp only [Option.getD_some, hcost]
      cases o.isMultisig <;> simp

end Ownership

namespace Holders

/-- The points that a score loses over the holders. -/
def cost (h : Holders) : Int :=
  Signals.holderCost {} { holders := h }

/-- The `cost` of holders that are not concentrated is nothing but for many findings. -/
theorem cost_of_spread (h : Holders) (hspread : h.isConcentrated = false)
    (hfew : h.risks.length ≤ 2) : h.cost = 0 := by
  simp only [cost, Signals.holderCost, hspread, pointsIf, Bool.false_eq_true, ↓reduceIte]
  rw [if_neg (by simp; omega)]
  rfl

/-- Where nobody is known to hold a token, `summarize` leaves the remark that they are unknown. -/
theorem summarize_sample_nil (limits : ConcentrationLimits) (n : Int) :
    summarize limits (sample n []) = .ok { risks := [noHoldersRisk] } := by
  simp [summarize, sample, ranked]

/-- `isConcentrated` is set exactly if there are `risks`. -/
def Concentration.IsMarked (c : Concentration) : Prop :=
  c.isConcentrated = true ↔ c.risks ≠ []

/-- Each comparison of `ofShares` sets `isConcentrated` beside its text, so it is set exactly if one
of them found something. -/
theorem Concentration.isMarked_ofShares (limits : ConcentrationLimits)
    (topShare top5Share top10Share : Binary64) :
    (ofShares limits topShare top5Share top10Share).IsMarked := by
  have hempty : IsMarked {} := by simp [IsMarked]
  have hfound (c : Concentration) (risk : String) : (c.found risk).IsMarked := by
    simp [IsMarked, found]
  have htop : (checkTop limits topShare {}).IsMarked := by
    unfold checkTop
    split
    · exact hfound _ _
    · split
      · exact hfound _ _
      · exact hempty
  have htop5 : (checkTop5 limits top5Share (checkTop limits topShare {})).IsMarked := by
    unfold checkTop5
    split
    · exact hfound _ _
    · exact htop
  unfold ofShares checkTop10
  split
  · exact hfound _ _
  · exact htop5

/-- If `isConcentrated` is not set, `summarize` leaves at most the remark that the holders are
unknown. -/
theorem length_risks_summarize (limits : ConcentrationLimits) (l : List Holder) (h : Holders)
    (hs : Holders.summarize limits l = .ok h) (hspread : h.isConcentrated = false) :
    h.risks.length ≤ 1 := by
  simp only [Holders.summarize] at hs
  split at hs
  · rw [← Except.ok.inj hs]
    exact Nat.le_refl 1
  · obtain ⟨_, _, hpure⟩ := Except.bind_eq_ok_iff.mp hs
    cases hpure
    simp only at hspread ⊢
    -- Where `isConcentrated` is not set, there is no text.
    have hmark := mt (Concentration.isMarked_ofShares limits _ _ _).mpr
      (Bool.not_eq_true _ |>.mpr hspread)
    rw [Decidable.not_not.mp hmark]
    exact Nat.zero_le 1

end Holders

/-! ## Scores and levels -/

/-- A `score` is a percentage, whatever it is made of. -/
theorem Signals.score_bounds (s : Signals) (w : Weights) : 0 ≤ s.score w ∧ s.score w ≤ 100 := by
  simp only [score]
  omega

/-- If each of its parts costs more, the whole has a lower `score`. -/
theorem Signals.score_le_of_parts (w : Weights) (s s' : Signals)
    (hownership : s.ownershipCost w ≤ s'.ownershipCost w)
    (hholders : s.holderCost w ≤ s'.holderCost w)
    (hcapability : s.capabilityCost w ≤ s'.capabilityCost w)
    (hstandard : pointsIf s'.standard.isERC20 w.erc20Bonus ≤
      pointsIf s.standard.isERC20 w.erc20Bonus) : s'.score w ≤ s.score w := by
  simp only [score]
  omega

/-- What costs more has a lower `score`. -/
theorem Signals.score_le_of_costs (s s' : Signals) (hstandard : s'.standard = s.standard)
    (hownership : s.ownership.cost ≤ s'.ownership.cost)
    (hholders : s.holders.cost ≤ s'.holders.cost)
    (hfindings : s'.findings = s.findings) : s'.score {} ≤ s.score {} := by
  apply score_le_of_parts
  · exact hownership
  · exact hholders
  · simp only [capabilityCost, hfindings]
    exact Int.le_refl _
  · exact Int.le_of_eq (by rw [hstandard])

namespace Level

/-- `ofScore` is the lowest level from a score of 80 on. -/
theorem ofScore_eq_low_iff (score : Int) : ofScore score = .low ↔ 80 ≤ score := by
  simp only [ofScore]
  split
  · simp_all
  · split
    · simp_all
    · split <;> simp_all

/-- `ofScore` of a score below 60 `isHigh`. -/
theorem isHigh_ofScore_iff (score : Int) : (ofScore score).isHigh = true ↔ score < 60 := by
  simp only [ofScore]
  split
  · simp [isHigh]; omega
  · split
    · simp [isHigh]; omega
    · split <;> simp [isHigh] <;> omega

end Level

end TokenRisk
