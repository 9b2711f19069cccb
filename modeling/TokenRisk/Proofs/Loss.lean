import TokenRisk.Proofs.Analyzer

/-!
# What a lost answer does to an analysis

An answer is lost if a call that answered instead fails for its provider's sake, or takes too long.
The sources of one analyzer are compared with others that have lost some of their answers. A part
whose answers are all still there comes out the same. Without its label a creator never costs less
(`cost_ownershipOf_le`); without holders or a record of its creation a token may cost less than
before, and by how much is bounded by what these answers said.
-/

namespace TokenRisk

/-! ## Lost answers -/

/-- A lookup that answered, and the same lookup failing for its provider's sake. -/
structure IsLost {α : Type} (x x' : Except Failure α) : Prop where
  answered : ∃ v, x = .ok v
  failed : ∃ name why, x' = .error (.provider name why)

/-- A lookup comes to the same, or `IsLost`. -/
def LosesTo {α : Type} (x x' : Except Failure α) : Prop :=
  x' = x ∨ IsLost x x'

/-- What is still answered after `LosesTo` was answered before. -/
theorem LosesTo.eq_of_ok {α : Type} {x x' : Except Failure α} {v : α} (h : LosesTo x x')
    (hx' : x' = .ok v) : x = .ok v := by
  cases h with
  | inl h => rw [← h, hx']
  | inr h =>
    obtain ⟨name, why, hfailed⟩ := h.failed
    rw [hfailed] at hx'
    cases hx'

/-- What `IsRecorded` after `LosesTo` was so before. -/
theorem LosesTo.isRecorded_of {α : Type} {x x' : Except Failure α} (h : LosesTo x x')
    (hx' : Analyzer.IsRecorded x') : Analyzer.IsRecorded x := by
  cases h with
  | inl h => rwa [← h]
  | inr h =>
    obtain ⟨v, hanswered⟩ := h.answered
    rw [hanswered]
    exact Analyzer.isRecorded_ok v

namespace Analyzer

variable (a : Analyzer) (sources : Sources)

/-- The analyzer that asks other sources. -/
def asking : Analyzer :=
  { a with sources }

/-- Other sources have lost some of the answers of the analyzer's own. -/
structure Loses : Prop where
  code : ∀ address chainId,
    LosesTo (a.codeAnswer address chainId) ((a.asking sources).codeAnswer address chainId)
  source : ∀ address chainId,
    LosesTo (a.sourceAnswer address chainId) ((a.asking sources).sourceAnswer address chainId)
  holders : ∀ address chainId,
    LosesTo (a.holdersAnswer address chainId) ((a.asking sources).holdersAnswer address chainId)
  creation : ∀ address chainId,
    LosesTo (a.creationAnswer address chainId) ((a.asking sources).creationAnswer address chainId)
  label : ∀ address chainId,
    LosesTo (a.labelAnswer address chainId) ((a.asking sources).labelAnswer address chainId)

/-! ## Parts -/

/-- `contractOf` stays the same as long as code and source are answered the same. -/
theorem contractOf_asking (address : String) (chainId : Int)
    (hcode : (a.asking sources).codeAnswer address chainId = a.codeAnswer address chainId)
    (hsource : (a.asking sources).sourceAnswer address chainId = a.sourceAnswer address chainId) :
    (a.asking sources).contractOf address chainId = a.contractOf address chainId := by
  rw [contractOf, hcode, hsource]
  rfl

/-- What `holders` come to, by what is answered about them. -/
theorem value_holders (address : String) (chainId : Int) :
    (a.holders address chainId).value = match a.holdersAnswer address chainId with
      | .error f =>
        if f.isProvider then
          .ok ({ risks := [Holders.failedRisk] }, warning (α := Unit) "Holder lookup" (.error f))
        else .error f
      | .ok l => (Holders.summarize {} (Holders.sample a.sampleSize l)).map (·, []) := rfl

/-- `holdersOf` stays the same as long as the holders are answered the same. -/
theorem holdersOf_asking (address : String) (chainId : Int)
    (h : (a.asking sources).holdersAnswer address chainId = a.holdersAnswer address chainId) :
    (a.asking sources).holdersOf address chainId = a.holdersOf address chainId := by
  rw [holdersOf, value_holders, h, holdersOf, value_holders]
  rfl

/-- Lost holders leave a remark in `holdersOf`. -/
theorem holdersOf_of_provider (address : String) (chainId : Int) (name : String)
    (why : ProviderFault) (h : a.holdersAnswer address chainId = .error (.provider name why)) :
    a.holdersOf address chainId = { risks := [Holders.failedRisk] } := by
  rw [holdersOf, value_holders, h]
  rfl

/-- What `ownership` comes to, by what is answered about the creation. -/
theorem value_ownership (contract : Contract) :
    (a.ownership contract).value =
      match a.creationAnswer contract.address contract.chainId with
      | .error f =>
        if f.isProvider then
          .ok ({ risks := [Ownership.noCreationRisk] },
            warning (α := Unit) "Ownership lookup" (.error f))
        else .error f
      | .ok none => .ok ({ risks := [Ownership.noCreationRisk] }, [])
      | .ok (some creation) =>
        (a.creatorLabel creation.creator contract.chainId).value >>= fun l =>
          (Ownership.assess contract creation.creator l.1).map (·, l.2) := by
  -- A provider's failure leaves a remark, any other one is passed on.
  simp only [ownership, Timed.value_bind, creationAnswer]
  rcases (a.sources.askCreation a.callLimit contract.address contract.chainId).value with
    f | _ | creation
  · simp only []
    split <;> rfl
  · rfl
  · simp only [Timed.value_map]
    cases (a.creatorLabel creation.creator contract.chainId).value <;> rfl

/-- What `ownershipOf` is, by what is answered about the creation. -/
theorem ownershipOf_eq (contract : Contract) :
    a.ownershipOf contract = match a.creationAnswer contract.address contract.chainId with
      | .error f =>
        { risks := [if f.isProvider then Ownership.noCreationRisk else Ownership.failedRisk] }
      | .ok none => { risks := [Ownership.noCreationRisk] }
      | .ok (some creation) => .orFailed
        ((a.creatorLabel creation.creator contract.chainId).value >>= fun l =>
          Ownership.assess contract creation.creator l.1) := by
  rw [ownershipOf, value_ownership]
  rcases a.creationAnswer contract.address contract.chainId with f | _ | creation
  · simp only []
    split <;> rfl
  · rfl
  · -- The label is looked for before the assessment, and a failure of either ends in the same
    -- default.
    simp only [bind, Except.bind]
    rcases (a.creatorLabel creation.creator contract.chainId).value with f | ⟨label, warnings⟩
    · rfl
    · simp only []
      cases Ownership.assess contract creation.creator label <;> rfl

variable {a sources} (h : a.Loses sources)

include h

/-- `creatorLabel` comes to the same label, or the label is lost and missing. -/
private theorem creatorLabel_asking (creator : Json) (chainId : Int) :
    ((a.asking sources).creatorLabel creator chainId).value =
        (a.creatorLabel creator chainId).value ∨
      ∃ label warnings warnings', (a.creatorLabel creator chainId).value = .ok (label, warnings) ∧
        ((a.asking sources).creatorLabel creator chainId).value = .ok (.null, warnings') := by
  simp only [creatorLabel]
  split
  · rename_i address
    split
    · exact .inl rfl
    · -- Only a creator that is a text is asked about.
      have hlabel := h.label address chainId
      simp only [labelAnswer] at hlabel
      simp only [Timed.value_map]
      cases hlabel with
      | inl hkept =>
        rw [hkept]
        exact .inl rfl
      | inr hlost =>
        -- A label that is lost was there before, and null takes its place.
        obtain ⟨label, hanswered⟩ := hlost.answered
        obtain ⟨name, why, hfailed⟩ := hlost.failed
        rw [hanswered, hfailed]
        exact .inr ⟨label, [], _, rfl, rfl⟩
  · exact .inl rfl

/-- As long as its creation is answered the same, `ownershipOf` a contract never costs less. -/
theorem cost_ownershipOf_le (contract : Contract)
    (hcreation : (a.asking sources).creationAnswer contract.address contract.chainId =
      a.creationAnswer contract.address contract.chainId) :
    (a.ownershipOf contract).cost ≤ ((a.asking sources).ownershipOf contract).cost := by
  rw [ownershipOf_eq, ownershipOf_eq, hcreation]
  cases a.creationAnswer contract.address contract.chainId with
  | error f => exact Int.le_refl _
  | ok creation =>
    cases creation with
    | none => exact Int.le_refl _
    | some creation =>
      rcases creatorLabel_asking h creation.creator contract.chainId with
        hkept | ⟨label, warnings, warnings', hlabel, hnull⟩
      · -- The assessment with the label costs no more than the one without it.
        simp only [hkept, Int.le_refl]
      · simp only [hlabel, hnull]
        exact Ownership.cost_assess_le contract creation.creator label

end Analyzer

end TokenRisk
