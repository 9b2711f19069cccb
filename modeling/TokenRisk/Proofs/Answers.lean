import TokenRisk.Proofs.Concentration
import TokenRisk.Proofs.Loss

/-!
# Answers in time and of their declared types

What a call comes to is its answer, unless the limit runs out on it. Names, addresses and labels are
declared as texts and kept as they were sent. A part of an analysis that is answered with texts
where texts are declared does not fail: a value of another kind is the only thing that it stumbles
over, apart from failures that are not a provider's.

## Key results

- `Reply.value_awaitWithin`: what a call under a limit comes to
- `Ownership.assess_isOk_iff`: what can be assessed
- `Holders.summarize_isOk`: what can be summarized
- `Analyzer.ownership_isOk_of_typed`, `Analyzer.holders_isOk_of_typed`: parts that do not fail
-/

namespace TokenRisk

/-! ## Calls under a limit -/

/-- `awaitWithin` comes to the answer of the reply, unless the limit runs out on it. -/
theorem Reply.value_awaitWithin {α : Type} (reply : Reply α) (call : Call)
    (limit : Option Binary64) (provider : String) :
    (reply.awaitWithin call limit provider).value =
      if Timed.runsOut limit reply.delay then .error (.provider provider (.timeout limit))
      else reply.answer :=
  Timed.value_call_within limit _ call reply.delay reply.answer

/-- The failures of `awaitWithin` are the provider's, if those of the reply are. -/
theorem Reply.isProvider_of_awaitWithin {α : Type} (reply : Reply α) (call : Call)
    (limit : Option Binary64) (provider : String) (f : Failure)
    (hreply : ∀ f, reply.answer = .error f → f.isProvider = true)
    (h : (reply.awaitWithin call limit provider).value = .error f) : f.isProvider = true := by
  rw [value_awaitWithin] at h
  split at h
  · rw [← Except.error.inj h]
    rfl
  · exact hreply f h

/-- What `awaitWithin` was answered with is the answer of the reply. -/
theorem Reply.answer_of_awaitWithin {α : Type} (reply : Reply α) (call : Call)
    (limit : Option Binary64) (provider : String) (x : α)
    (h : (reply.awaitWithin call limit provider).value = .ok x) : reply.answer = .ok x := by
  rw [value_awaitWithin] at h
  split at h
  · cases h
  · exact h

/-! ## Declared types -/

/-- A text. -/
def Json.IsText (v : Json) : Prop :=
  ∃ s, v = .string s

/-- A text, or a value that is not `isTruthy`. -/
def Json.IsTextIfAny (v : Json) : Prop :=
  v.isTruthy = true → v.IsText

/-- A `SourceRecord` with texts where texts are declared. -/
structure SourceRecord.IsTyped (r : SourceRecord) : Prop where
  contractName : r.contractName.IsTextIfAny
  implementation : r.implementation.IsTextIfAny

/-- A `Creation` with texts where texts are declared. -/
structure Creation.IsTyped (c : Creation) : Prop where
  creator : c.creator.IsTextIfAny
  transaction : c.transaction.IsTextIfAny

/-- A `Holder` with a text for its address. -/
def Holder.IsTyped (h : Holder) : Prop :=
  h.address.IsText

/-- `Sources` that answer with texts where texts are declared. -/
structure Sources.AnswersTyped (s : Sources) : Prop where
  source : ∀ address chainId record,
    (s.source address chainId).answer = .ok (some record) → record.IsTyped
  holders : ∀ address chainId count l,
    (s.holders address chainId count).answer = .ok l → ∀ h ∈ l, h.IsTyped
  creation : ∀ address chainId record,
    (s.creation address chainId).answer = .ok (some record) → record.IsTyped
  label : ∀ address chainId label,
    (s.label address chainId).answer = .ok label → label.IsTextIfAny

/-- `Sources` all of whose failures are a provider's. -/
structure Sources.FailsByProviders (s : Sources) : Prop where
  code : ∀ address chainId f, (s.code address chainId).answer = .error f → f.isProvider = true
  source : ∀ address chainId f, (s.source address chainId).answer = .error f → f.isProvider = true
  holders : ∀ address chainId count f,
    (s.holders address chainId count).answer = .error f → f.isProvider = true
  creation : ∀ address chainId f,
    (s.creation address chainId).answer = .error f → f.isProvider = true
  label : ∀ address chainId f, (s.label address chainId).answer = .error f → f.isProvider = true

/-! ## Control -/

namespace Ownership

/-- `loweredText?` can read a reported value exactly if it is a text or not `isTruthy`. -/
theorem loweredText?_isOk_iff (v : Json) : (∃ s, loweredText? v = .ok s) ↔ v.IsTextIfAny := by
  unfold loweredText? Json.IsTextIfAny Json.IsText
  cases hany : v.isTruthy with
  | false => simp
  | true => cases v <;> simp [loweredText, Except.map]

theorem isMultisigLabel_isOk_iff (label : Json) :
    (∃ b, isMultisigLabel label = .ok b) ↔ label.IsTextIfAny := by
  rw [← loweredText?_isOk_iff]
  unfold isMultisigLabel
  cases loweredText? label <;> simp [Except.map]

/-- `assess` comes to a value exactly if the label, the creator and, unless the code names it, the
implementation are texts or count as nothing. -/
theorem assess_isOk_iff (contract : Contract) (creator label : Json) :
    (∃ o, assess contract creator label = .ok o) ↔
      label.IsTextIfAny ∧ creator.IsTextIfAny ∧
        (embeddedImplementation? contract.codeHex = none →
          contract.implementation.IsTextIfAny) := by
  -- The three values are read one after the other, and each may be what it fails over.
  rw [← isMultisigLabel_isOk_iff, ← loweredText?_isOk_iff, ← loweredText?_isOk_iff]
  unfold assess
  cases isMultisigLabel label with
  | error f => simp [bind, Except.bind]
  | ok isMultisig =>
    cases loweredText? creator with
    | error f => simp [bind, Except.bind]
    | ok owner =>
      cases hembedded : embeddedImplementation? contract.codeHex with
      | some address => simp [bind, Except.bind, pure, Except.pure, hembedded]
      | none =>
        -- Only now does the reported implementation matter.
        cases loweredText? contract.implementation <;>
          simp [bind, Except.bind, pure, Except.pure, hembedded]

end Ownership

/-! ## Holders -/

namespace Holders

/-- `summarize` comes to a value for holders whose addresses are texts. -/
theorem summarize_isOk (limits : ConcentrationLimits) (l : List Holder)
    (h : ∀ holder ∈ l, holder.IsTyped) : ∃ summary, summarize limits l = .ok summary := by
  by_cases hnil : l = []
  · exact ⟨{ risks := [noHoldersRisk] }, by simp [hnil, summarize, ranked]⟩
  · obtain ⟨summary, hok, _⟩ := exists_isSummary limits hnil h
    exact ⟨summary, hok⟩

end Holders

/-! ## Parts that do not fail -/

namespace Analyzer

variable (a : Analyzer)

/-- `creatorLabel` does not fail for a creator that is a text or none. -/
private theorem creatorLabel_isOk (creator : Json) (chainId : Int)
    (hcreator : creator.IsTextIfAny)
    (htyped : a.sources.AnswersTyped) (hproviders : a.sources.FailsByProviders) :
    ∃ label warnings, (a.creatorLabel creator chainId).value = .ok (label, warnings) ∧
      label.IsTextIfAny := by
  have hnull : Json.null.IsTextIfAny := fun h => by cases h
  unfold creatorLabel
  split
  · rename_i address
    split
    · exact ⟨_, _, rfl, hnull⟩
    · rw [Timed.value_map]
      cases hanswer : (a.sources.askLabel a.callLimit address chainId).value with
      | ok label =>
        exact ⟨label, [], rfl, htyped.label address chainId label
          (Reply.answer_of_awaitWithin _ _ _ _ label hanswer)⟩
      -- A label that could not be had is warned of.
      | error f =>
        have hprovider := Reply.isProvider_of_awaitWithin _ _ _ _ f
          (hproviders.label address chainId) hanswer
        simp only [hprovider]
        exact ⟨_, _, rfl, hnull⟩
  · -- Whoever is no text counts as nobody, and is not asked about.
    rename_i hnot
    split
    · rename_i hany
      obtain ⟨address, haddress⟩ := hcreator hany
      exact absurd haddress (hnot address)
    · exact ⟨_, _, rfl, hnull⟩

/-- With sources that answer as declared and fail by their providers, `ownership` does not fail. -/
theorem ownership_isOk_of_typed (contract : Contract)
    (himplementation : contract.implementation.IsTextIfAny)
    (htyped : a.sources.AnswersTyped) (hproviders : a.sources.FailsByProviders) :
    ∃ x, (a.ownership contract).value = .ok x := by
  rw [value_ownership]
  cases hanswer : a.creationAnswer contract.address contract.chainId with
  -- A failure of the provider is replaced by a default with a warning.
  | error f =>
    have hprovider := Reply.isProvider_of_awaitWithin _ _ _ _ f
      (hproviders.creation contract.address contract.chainId) hanswer
    simp only [hprovider]
    exact ⟨_, rfl⟩
  | ok creation =>
    cases creation with
    | none => exact ⟨_, rfl⟩
    -- All three values that are assessed are texts, or count as nothing.
    | some creation =>
      have hcreation := htyped.creation contract.address contract.chainId creation
        (Reply.answer_of_awaitWithin _ _ _ _ _ hanswer)
      obtain ⟨label, warnings, hlabel, htext⟩ := a.creatorLabel_isOk creation.creator
        contract.chainId hcreation.creator htyped hproviders
      obtain ⟨o, ho⟩ := (Ownership.assess_isOk_iff contract creation.creator label).mpr
        ⟨htext, hcreation.creator, fun _ => himplementation⟩
      refine ⟨(o, warnings), ?_⟩
      simp only [hlabel, bind, Except.bind, ho]
      rfl

/-- Neither does `holders`. -/
theorem holders_isOk_of_typed (address : String) (chainId : Int)
    (htyped : a.sources.AnswersTyped) (hproviders : a.sources.FailsByProviders) :
    ∃ x, (a.holders address chainId).value = .ok x := by
  rw [value_holders]
  cases hanswer : a.holdersAnswer address chainId with
  | error f =>
    have hprovider := Reply.isProvider_of_awaitWithin _ _ _ _ f
      (hproviders.holders address chainId a.sampleSize) hanswer
    simp only [hprovider]
    exact ⟨_, rfl⟩
  | ok l =>
    have hl := htyped.holders address chainId a.sampleSize l
      (Reply.answer_of_awaitWithin _ _ _ _ l hanswer)
    have hsample : ∀ h ∈ Holders.sample a.sampleSize l, h.IsTyped := by
      intro h hh
      unfold Holders.sample at hh
      split at hh
      · exact hl h (List.mem_of_mem_take hh)
      · exact hl h (List.mem_of_mem_take hh)
    -- The sample is cut off before it is ranked, so whoever comes first is one of the holders.
    obtain ⟨summary, hsummary⟩ := Holders.summarize_isOk {} _ hsample
    exact ⟨(summary, []), by simp only [hsummary]; rfl⟩

end Analyzer

end TokenRisk
